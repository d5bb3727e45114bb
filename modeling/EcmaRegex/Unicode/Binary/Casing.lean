import EcmaRegex.CodePointSet.Basic
/-!
# Binary properties of letter case

Properties about upper and lower case and how case mapping changes a character.
Unicode character database, version 16.0; each table lists the code points that have the
property, as ranges, by the property's long name.
-/

namespace EcmaRegex

namespace Unicode

set_option maxRecDepth 20000 in
/-- Binary properties of letter case, as ranges, by long name. -/
def casingTables : List (String × List CodePointRange) := [
  ("Cased",
    [⟨nat_lit 0x41, nat_lit 0x5A⟩, ⟨nat_lit 0x61, nat_lit 0x7A⟩, ⟨nat_lit 0xAA, nat_lit 0xAA⟩,
     ⟨nat_lit 0xB5, nat_lit 0xB5⟩, ⟨nat_lit 0xBA, nat_lit 0xBA⟩, ⟨nat_lit 0xC0, nat_lit 0xD6⟩,
     ⟨nat_lit 0xD8, nat_lit 0xF6⟩, ⟨nat_lit 0xF8, nat_lit 0x1BA⟩, ⟨nat_lit 0x1BC, nat_lit 0x1BF⟩,
     ⟨nat_lit 0x1C4, nat_lit 0x293⟩, ⟨nat_lit 0x295, nat_lit 0x2B8⟩,
     ⟨nat_lit 0x2C0, nat_lit 0x2C1⟩, ⟨nat_lit 0x2E0, nat_lit 0x2E4⟩,
     ⟨nat_lit 0x345, nat_lit 0x345⟩, ⟨nat_lit 0x370, nat_lit 0x373⟩,
     ⟨nat_lit 0x376, nat_lit 0x377⟩, ⟨nat_lit 0x37A, nat_lit 0x37D⟩,
     ⟨nat_lit 0x37F, nat_lit 0x37F⟩, ⟨nat_lit 0x386, nat_lit 0x386⟩,
     ⟨nat_lit 0x388, nat_lit 0x38A⟩, ⟨nat_lit 0x38C, nat_lit 0x38C⟩,
     ⟨nat_lit 0x38E, nat_lit 0x3A1⟩, ⟨nat_lit 0x3A3, nat_lit 0x3F5⟩,
     ⟨nat_lit 0x3F7, nat_lit 0x481⟩, ⟨nat_lit 0x48A, nat_lit 0x52F⟩,
     ⟨nat_lit 0x531, nat_lit 0x556⟩, ⟨nat_lit 0x560, nat_lit 0x588⟩,
     ⟨nat_lit 0x10A0, nat_lit 0x10C5⟩, ⟨nat_lit 0x10C7, nat_lit 0x10C7⟩,
     ⟨nat_lit 0x10CD, nat_lit 0x10CD⟩, ⟨nat_lit 0x10D0, nat_lit 0x10FA⟩,
     ⟨nat_lit 0x10FC, nat_lit 0x10FF⟩, ⟨nat_lit 0x13A0, nat_lit 0x13F5⟩,
     ⟨nat_lit 0x13F8, nat_lit 0x13FD⟩, ⟨nat_lit 0x1C80, nat_lit 0x1C8A⟩,
     ⟨nat_lit 0x1C90, nat_lit 0x1CBA⟩, ⟨nat_lit 0x1CBD, nat_lit 0x1CBF⟩,
     ⟨nat_lit 0x1D00, nat_lit 0x1DBF⟩, ⟨nat_lit 0x1E00, nat_lit 0x1F15⟩,
     ⟨nat_lit 0x1F18, nat_lit 0x1F1D⟩, ⟨nat_lit 0x1F20, nat_lit 0x1F45⟩,
     ⟨nat_lit 0x1F48, nat_lit 0x1F4D⟩, ⟨nat_lit 0x1F50, nat_lit 0x1F57⟩,
     ⟨nat_lit 0x1F59, nat_lit 0x1F59⟩, ⟨nat_lit 0x1F5B, nat_lit 0x1F5B⟩,
     ⟨nat_lit 0x1F5D, nat_lit 0x1F5D⟩, ⟨nat_lit 0x1F5F, nat_lit 0x1F7D⟩,
     ⟨nat_lit 0x1F80, nat_lit 0x1FB4⟩, ⟨nat_lit 0x1FB6, nat_lit 0x1FBC⟩,
     ⟨nat_lit 0x1FBE, nat_lit 0x1FBE⟩, ⟨nat_lit 0x1FC2, nat_lit 0x1FC4⟩,
     ⟨nat_lit 0x1FC6, nat_lit 0x1FCC⟩, ⟨nat_lit 0x1FD0, nat_lit 0x1FD3⟩,
     ⟨nat_lit 0x1FD6, nat_lit 0x1FDB⟩, ⟨nat_lit 0x1FE0, nat_lit 0x1FEC⟩,
     ⟨nat_lit 0x1FF2, nat_lit 0x1FF4⟩, ⟨nat_lit 0x1FF6, nat_lit 0x1FFC⟩,
     ⟨nat_lit 0x2071, nat_lit 0x2071⟩, ⟨nat_lit 0x207F, nat_lit 0x207F⟩,
     ⟨nat_lit 0x2090, nat_lit 0x209C⟩, ⟨nat_lit 0x2102, nat_lit 0x2102⟩,
     ⟨nat_lit 0x2107, nat_lit 0x2107⟩, ⟨nat_lit 0x210A, nat_lit 0x2113⟩,
     ⟨nat_lit 0x2115, nat_lit 0x2115⟩, ⟨nat_lit 0x2119, nat_lit 0x211D⟩,
     ⟨nat_lit 0x2124, nat_lit 0x2124⟩, ⟨nat_lit 0x2126, nat_lit 0x2126⟩,
     ⟨nat_lit 0x2128, nat_lit 0x2128⟩, ⟨nat_lit 0x212A, nat_lit 0x212D⟩,
     ⟨nat_lit 0x212F, nat_lit 0x2134⟩, ⟨nat_lit 0x2139, nat_lit 0x2139⟩,
     ⟨nat_lit 0x213C, nat_lit 0x213F⟩, ⟨nat_lit 0x2145, nat_lit 0x2149⟩,
     ⟨nat_lit 0x214E, nat_lit 0x214E⟩, ⟨nat_lit 0x2160, nat_lit 0x217F⟩,
     ⟨nat_lit 0x2183, nat_lit 0x2184⟩, ⟨nat_lit 0x24B6, nat_lit 0x24E9⟩,
     ⟨nat_lit 0x2C00, nat_lit 0x2CE4⟩, ⟨nat_lit 0x2CEB, nat_lit 0x2CEE⟩,
     ⟨nat_lit 0x2CF2, nat_lit 0x2CF3⟩, ⟨nat_lit 0x2D00, nat_lit 0x2D25⟩,
     ⟨nat_lit 0x2D27, nat_lit 0x2D27⟩, ⟨nat_lit 0x2D2D, nat_lit 0x2D2D⟩,
     ⟨nat_lit 0xA640, nat_lit 0xA66D⟩, ⟨nat_lit 0xA680, nat_lit 0xA69D⟩,
     ⟨nat_lit 0xA722, nat_lit 0xA787⟩, ⟨nat_lit 0xA78B, nat_lit 0xA78E⟩,
     ⟨nat_lit 0xA790, nat_lit 0xA7CD⟩, ⟨nat_lit 0xA7D0, nat_lit 0xA7D1⟩,
     ⟨nat_lit 0xA7D3, nat_lit 0xA7D3⟩, ⟨nat_lit 0xA7D5, nat_lit 0xA7DC⟩,
     ⟨nat_lit 0xA7F2, nat_lit 0xA7F6⟩, ⟨nat_lit 0xA7F8, nat_lit 0xA7FA⟩,
     ⟨nat_lit 0xAB30, nat_lit 0xAB5A⟩, ⟨nat_lit 0xAB5C, nat_lit 0xAB69⟩,
     ⟨nat_lit 0xAB70, nat_lit 0xABBF⟩, ⟨nat_lit 0xFB00, nat_lit 0xFB06⟩,
     ⟨nat_lit 0xFB13, nat_lit 0xFB17⟩, ⟨nat_lit 0xFF21, nat_lit 0xFF3A⟩,
     ⟨nat_lit 0xFF41, nat_lit 0xFF5A⟩, ⟨nat_lit 0x10400, nat_lit 0x1044F⟩,
     ⟨nat_lit 0x104B0, nat_lit 0x104D3⟩, ⟨nat_lit 0x104D8, nat_lit 0x104FB⟩,
     ⟨nat_lit 0x10570, nat_lit 0x1057A⟩, ⟨nat_lit 0x1057C, nat_lit 0x1058A⟩,
     ⟨nat_lit 0x1058C, nat_lit 0x10592⟩, ⟨nat_lit 0x10594, nat_lit 0x10595⟩,
     ⟨nat_lit 0x10597, nat_lit 0x105A1⟩, ⟨nat_lit 0x105A3, nat_lit 0x105B1⟩,
     ⟨nat_lit 0x105B3, nat_lit 0x105B9⟩, ⟨nat_lit 0x105BB, nat_lit 0x105BC⟩,
     ⟨nat_lit 0x10780, nat_lit 0x10780⟩, ⟨nat_lit 0x10783, nat_lit 0x10785⟩,
     ⟨nat_lit 0x10787, nat_lit 0x107B0⟩, ⟨nat_lit 0x107B2, nat_lit 0x107BA⟩,
     ⟨nat_lit 0x10C80, nat_lit 0x10CB2⟩, ⟨nat_lit 0x10CC0, nat_lit 0x10CF2⟩,
     ⟨nat_lit 0x10D50, nat_lit 0x10D65⟩, ⟨nat_lit 0x10D70, nat_lit 0x10D85⟩,
     ⟨nat_lit 0x118A0, nat_lit 0x118DF⟩, ⟨nat_lit 0x16E40, nat_lit 0x16E7F⟩,
     ⟨nat_lit 0x1D400, nat_lit 0x1D454⟩, ⟨nat_lit 0x1D456, nat_lit 0x1D49C⟩,
     ⟨nat_lit 0x1D49E, nat_lit 0x1D49F⟩, ⟨nat_lit 0x1D4A2, nat_lit 0x1D4A2⟩,
     ⟨nat_lit 0x1D4A5, nat_lit 0x1D4A6⟩, ⟨nat_lit 0x1D4A9, nat_lit 0x1D4AC⟩,
     ⟨nat_lit 0x1D4AE, nat_lit 0x1D4B9⟩, ⟨nat_lit 0x1D4BB, nat_lit 0x1D4BB⟩,
     ⟨nat_lit 0x1D4BD, nat_lit 0x1D4C3⟩, ⟨nat_lit 0x1D4C5, nat_lit 0x1D505⟩,
     ⟨nat_lit 0x1D507, nat_lit 0x1D50A⟩, ⟨nat_lit 0x1D50D, nat_lit 0x1D514⟩,
     ⟨nat_lit 0x1D516, nat_lit 0x1D51C⟩, ⟨nat_lit 0x1D51E, nat_lit 0x1D539⟩,
     ⟨nat_lit 0x1D53B, nat_lit 0x1D53E⟩, ⟨nat_lit 0x1D540, nat_lit 0x1D544⟩,
     ⟨nat_lit 0x1D546, nat_lit 0x1D546⟩, ⟨nat_lit 0x1D54A, nat_lit 0x1D550⟩,
     ⟨nat_lit 0x1D552, nat_lit 0x1D6A5⟩, ⟨nat_lit 0x1D6A8, nat_lit 0x1D6C0⟩,
     ⟨nat_lit 0x1D6C2, nat_lit 0x1D6DA⟩, ⟨nat_lit 0x1D6DC, nat_lit 0x1D6FA⟩,
     ⟨nat_lit 0x1D6FC, nat_lit 0x1D714⟩, ⟨nat_lit 0x1D716, nat_lit 0x1D734⟩,
     ⟨nat_lit 0x1D736, nat_lit 0x1D74E⟩, ⟨nat_lit 0x1D750, nat_lit 0x1D76E⟩,
     ⟨nat_lit 0x1D770, nat_lit 0x1D788⟩, ⟨nat_lit 0x1D78A, nat_lit 0x1D7A8⟩,
     ⟨nat_lit 0x1D7AA, nat_lit 0x1D7C2⟩, ⟨nat_lit 0x1D7C4, nat_lit 0x1D7CB⟩,
     ⟨nat_lit 0x1DF00, nat_lit 0x1DF09⟩, ⟨nat_lit 0x1DF0B, nat_lit 0x1DF1E⟩,
     ⟨nat_lit 0x1DF25, nat_lit 0x1DF2A⟩, ⟨nat_lit 0x1E030, nat_lit 0x1E06D⟩,
     ⟨nat_lit 0x1E900, nat_lit 0x1E943⟩, ⟨nat_lit 0x1F130, nat_lit 0x1F149⟩,
     ⟨nat_lit 0x1F150, nat_lit 0x1F169⟩, ⟨nat_lit 0x1F170, nat_lit 0x1F189⟩]),
  ("Case_Ignorable",
    [⟨nat_lit 0x27, nat_lit 0x27⟩, ⟨nat_lit 0x2E, nat_lit 0x2E⟩, ⟨nat_lit 0x3A, nat_lit 0x3A⟩,
     ⟨nat_lit 0x5E, nat_lit 0x5E⟩, ⟨nat_lit 0x60, nat_lit 0x60⟩, ⟨nat_lit 0xA8, nat_lit 0xA8⟩,
     ⟨nat_lit 0xAD, nat_lit 0xAD⟩, ⟨nat_lit 0xAF, nat_lit 0xAF⟩, ⟨nat_lit 0xB4, nat_lit 0xB4⟩,
     ⟨nat_lit 0xB7, nat_lit 0xB8⟩, ⟨nat_lit 0x2B0, nat_lit 0x36F⟩, ⟨nat_lit 0x374, nat_lit 0x375⟩,
     ⟨nat_lit 0x37A, nat_lit 0x37A⟩, ⟨nat_lit 0x384, nat_lit 0x385⟩,
     ⟨nat_lit 0x387, nat_lit 0x387⟩, ⟨nat_lit 0x483, nat_lit 0x489⟩,
     ⟨nat_lit 0x559, nat_lit 0x559⟩, ⟨nat_lit 0x55F, nat_lit 0x55F⟩,
     ⟨nat_lit 0x591, nat_lit 0x5BD⟩, ⟨nat_lit 0x5BF, nat_lit 0x5BF⟩,
     ⟨nat_lit 0x5C1, nat_lit 0x5C2⟩, ⟨nat_lit 0x5C4, nat_lit 0x5C5⟩,
     ⟨nat_lit 0x5C7, nat_lit 0x5C7⟩, ⟨nat_lit 0x5F4, nat_lit 0x5F4⟩,
     ⟨nat_lit 0x600, nat_lit 0x605⟩, ⟨nat_lit 0x610, nat_lit 0x61A⟩,
     ⟨nat_lit 0x61C, nat_lit 0x61C⟩, ⟨nat_lit 0x640, nat_lit 0x640⟩,
     ⟨nat_lit 0x64B, nat_lit 0x65F⟩, ⟨nat_lit 0x670, nat_lit 0x670⟩,
     ⟨nat_lit 0x6D6, nat_lit 0x6DD⟩, ⟨nat_lit 0x6DF, nat_lit 0x6E8⟩,
     ⟨nat_lit 0x6EA, nat_lit 0x6ED⟩, ⟨nat_lit 0x70F, nat_lit 0x70F⟩,
     ⟨nat_lit 0x711, nat_lit 0x711⟩, ⟨nat_lit 0x730, nat_lit 0x74A⟩,
     ⟨nat_lit 0x7A6, nat_lit 0x7B0⟩, ⟨nat_lit 0x7EB, nat_lit 0x7F5⟩,
     ⟨nat_lit 0x7FA, nat_lit 0x7FA⟩, ⟨nat_lit 0x7FD, nat_lit 0x7FD⟩,
     ⟨nat_lit 0x816, nat_lit 0x82D⟩, ⟨nat_lit 0x859, nat_lit 0x85B⟩,
     ⟨nat_lit 0x888, nat_lit 0x888⟩, ⟨nat_lit 0x890, nat_lit 0x891⟩,
     ⟨nat_lit 0x897, nat_lit 0x89F⟩, ⟨nat_lit 0x8C9, nat_lit 0x902⟩,
     ⟨nat_lit 0x93A, nat_lit 0x93A⟩, ⟨nat_lit 0x93C, nat_lit 0x93C⟩,
     ⟨nat_lit 0x941, nat_lit 0x948⟩, ⟨nat_lit 0x94D, nat_lit 0x94D⟩,
     ⟨nat_lit 0x951, nat_lit 0x957⟩, ⟨nat_lit 0x962, nat_lit 0x963⟩,
     ⟨nat_lit 0x971, nat_lit 0x971⟩, ⟨nat_lit 0x981, nat_lit 0x981⟩,
     ⟨nat_lit 0x9BC, nat_lit 0x9BC⟩, ⟨nat_lit 0x9C1, nat_lit 0x9C4⟩,
     ⟨nat_lit 0x9CD, nat_lit 0x9CD⟩, ⟨nat_lit 0x9E2, nat_lit 0x9E3⟩,
     ⟨nat_lit 0x9FE, nat_lit 0x9FE⟩, ⟨nat_lit 0xA01, nat_lit 0xA02⟩,
     ⟨nat_lit 0xA3C, nat_lit 0xA3C⟩, ⟨nat_lit 0xA41, nat_lit 0xA42⟩,
     ⟨nat_lit 0xA47, nat_lit 0xA48⟩, ⟨nat_lit 0xA4B, nat_lit 0xA4D⟩,
     ⟨nat_lit 0xA51, nat_lit 0xA51⟩, ⟨nat_lit 0xA70, nat_lit 0xA71⟩,
     ⟨nat_lit 0xA75, nat_lit 0xA75⟩, ⟨nat_lit 0xA81, nat_lit 0xA82⟩,
     ⟨nat_lit 0xABC, nat_lit 0xABC⟩, ⟨nat_lit 0xAC1, nat_lit 0xAC5⟩,
     ⟨nat_lit 0xAC7, nat_lit 0xAC8⟩, ⟨nat_lit 0xACD, nat_lit 0xACD⟩,
     ⟨nat_lit 0xAE2, nat_lit 0xAE3⟩, ⟨nat_lit 0xAFA, nat_lit 0xAFF⟩,
     ⟨nat_lit 0xB01, nat_lit 0xB01⟩, ⟨nat_lit 0xB3C, nat_lit 0xB3C⟩,
     ⟨nat_lit 0xB3F, nat_lit 0xB3F⟩, ⟨nat_lit 0xB41, nat_lit 0xB44⟩,
     ⟨nat_lit 0xB4D, nat_lit 0xB4D⟩, ⟨nat_lit 0xB55, nat_lit 0xB56⟩,
     ⟨nat_lit 0xB62, nat_lit 0xB63⟩, ⟨nat_lit 0xB82, nat_lit 0xB82⟩,
     ⟨nat_lit 0xBC0, nat_lit 0xBC0⟩, ⟨nat_lit 0xBCD, nat_lit 0xBCD⟩,
     ⟨nat_lit 0xC00, nat_lit 0xC00⟩, ⟨nat_lit 0xC04, nat_lit 0xC04⟩,
     ⟨nat_lit 0xC3C, nat_lit 0xC3C⟩, ⟨nat_lit 0xC3E, nat_lit 0xC40⟩,
     ⟨nat_lit 0xC46, nat_lit 0xC48⟩, ⟨nat_lit 0xC4A, nat_lit 0xC4D⟩,
     ⟨nat_lit 0xC55, nat_lit 0xC56⟩, ⟨nat_lit 0xC62, nat_lit 0xC63⟩,
     ⟨nat_lit 0xC81, nat_lit 0xC81⟩, ⟨nat_lit 0xCBC, nat_lit 0xCBC⟩,
     ⟨nat_lit 0xCBF, nat_lit 0xCBF⟩, ⟨nat_lit 0xCC6, nat_lit 0xCC6⟩,
     ⟨nat_lit 0xCCC, nat_lit 0xCCD⟩, ⟨nat_lit 0xCE2, nat_lit 0xCE3⟩,
     ⟨nat_lit 0xD00, nat_lit 0xD01⟩, ⟨nat_lit 0xD3B, nat_lit 0xD3C⟩,
     ⟨nat_lit 0xD41, nat_lit 0xD44⟩, ⟨nat_lit 0xD4D, nat_lit 0xD4D⟩,
     ⟨nat_lit 0xD62, nat_lit 0xD63⟩, ⟨nat_lit 0xD81, nat_lit 0xD81⟩,
     ⟨nat_lit 0xDCA, nat_lit 0xDCA⟩, ⟨nat_lit 0xDD2, nat_lit 0xDD4⟩,
     ⟨nat_lit 0xDD6, nat_lit 0xDD6⟩, ⟨nat_lit 0xE31, nat_lit 0xE31⟩,
     ⟨nat_lit 0xE34, nat_lit 0xE3A⟩, ⟨nat_lit 0xE46, nat_lit 0xE4E⟩,
     ⟨nat_lit 0xEB1, nat_lit 0xEB1⟩, ⟨nat_lit 0xEB4, nat_lit 0xEBC⟩,
     ⟨nat_lit 0xEC6, nat_lit 0xEC6⟩, ⟨nat_lit 0xEC8, nat_lit 0xECE⟩,
     ⟨nat_lit 0xF18, nat_lit 0xF19⟩, ⟨nat_lit 0xF35, nat_lit 0xF35⟩,
     ⟨nat_lit 0xF37, nat_lit 0xF37⟩, ⟨nat_lit 0xF39, nat_lit 0xF39⟩,
     ⟨nat_lit 0xF71, nat_lit 0xF7E⟩, ⟨nat_lit 0xF80, nat_lit 0xF84⟩,
     ⟨nat_lit 0xF86, nat_lit 0xF87⟩, ⟨nat_lit 0xF8D, nat_lit 0xF97⟩,
     ⟨nat_lit 0xF99, nat_lit 0xFBC⟩, ⟨nat_lit 0xFC6, nat_lit 0xFC6⟩,
     ⟨nat_lit 0x102D, nat_lit 0x1030⟩, ⟨nat_lit 0x1032, nat_lit 0x1037⟩,
     ⟨nat_lit 0x1039, nat_lit 0x103A⟩, ⟨nat_lit 0x103D, nat_lit 0x103E⟩,
     ⟨nat_lit 0x1058, nat_lit 0x1059⟩, ⟨nat_lit 0x105E, nat_lit 0x1060⟩,
     ⟨nat_lit 0x1071, nat_lit 0x1074⟩, ⟨nat_lit 0x1082, nat_lit 0x1082⟩,
     ⟨nat_lit 0x1085, nat_lit 0x1086⟩, ⟨nat_lit 0x108D, nat_lit 0x108D⟩,
     ⟨nat_lit 0x109D, nat_lit 0x109D⟩, ⟨nat_lit 0x10FC, nat_lit 0x10FC⟩,
     ⟨nat_lit 0x135D, nat_lit 0x135F⟩, ⟨nat_lit 0x1712, nat_lit 0x1714⟩,
     ⟨nat_lit 0x1732, nat_lit 0x1733⟩, ⟨nat_lit 0x1752, nat_lit 0x1753⟩,
     ⟨nat_lit 0x1772, nat_lit 0x1773⟩, ⟨nat_lit 0x17B4, nat_lit 0x17B5⟩,
     ⟨nat_lit 0x17B7, nat_lit 0x17BD⟩, ⟨nat_lit 0x17C6, nat_lit 0x17C6⟩,
     ⟨nat_lit 0x17C9, nat_lit 0x17D3⟩, ⟨nat_lit 0x17D7, nat_lit 0x17D7⟩,
     ⟨nat_lit 0x17DD, nat_lit 0x17DD⟩, ⟨nat_lit 0x180B, nat_lit 0x180F⟩,
     ⟨nat_lit 0x1843, nat_lit 0x1843⟩, ⟨nat_lit 0x1885, nat_lit 0x1886⟩,
     ⟨nat_lit 0x18A9, nat_lit 0x18A9⟩, ⟨nat_lit 0x1920, nat_lit 0x1922⟩,
     ⟨nat_lit 0x1927, nat_lit 0x1928⟩, ⟨nat_lit 0x1932, nat_lit 0x1932⟩,
     ⟨nat_lit 0x1939, nat_lit 0x193B⟩, ⟨nat_lit 0x1A17, nat_lit 0x1A18⟩,
     ⟨nat_lit 0x1A1B, nat_lit 0x1A1B⟩, ⟨nat_lit 0x1A56, nat_lit 0x1A56⟩,
     ⟨nat_lit 0x1A58, nat_lit 0x1A5E⟩, ⟨nat_lit 0x1A60, nat_lit 0x1A60⟩,
     ⟨nat_lit 0x1A62, nat_lit 0x1A62⟩, ⟨nat_lit 0x1A65, nat_lit 0x1A6C⟩,
     ⟨nat_lit 0x1A73, nat_lit 0x1A7C⟩, ⟨nat_lit 0x1A7F, nat_lit 0x1A7F⟩,
     ⟨nat_lit 0x1AA7, nat_lit 0x1AA7⟩, ⟨nat_lit 0x1AB0, nat_lit 0x1ACE⟩,
     ⟨nat_lit 0x1B00, nat_lit 0x1B03⟩, ⟨nat_lit 0x1B34, nat_lit 0x1B34⟩,
     ⟨nat_lit 0x1B36, nat_lit 0x1B3A⟩, ⟨nat_lit 0x1B3C, nat_lit 0x1B3C⟩,
     ⟨nat_lit 0x1B42, nat_lit 0x1B42⟩, ⟨nat_lit 0x1B6B, nat_lit 0x1B73⟩,
     ⟨nat_lit 0x1B80, nat_lit 0x1B81⟩, ⟨nat_lit 0x1BA2, nat_lit 0x1BA5⟩,
     ⟨nat_lit 0x1BA8, nat_lit 0x1BA9⟩, ⟨nat_lit 0x1BAB, nat_lit 0x1BAD⟩,
     ⟨nat_lit 0x1BE6, nat_lit 0x1BE6⟩, ⟨nat_lit 0x1BE8, nat_lit 0x1BE9⟩,
     ⟨nat_lit 0x1BED, nat_lit 0x1BED⟩, ⟨nat_lit 0x1BEF, nat_lit 0x1BF1⟩,
     ⟨nat_lit 0x1C2C, nat_lit 0x1C33⟩, ⟨nat_lit 0x1C36, nat_lit 0x1C37⟩,
     ⟨nat_lit 0x1C78, nat_lit 0x1C7D⟩, ⟨nat_lit 0x1CD0, nat_lit 0x1CD2⟩,
     ⟨nat_lit 0x1CD4, nat_lit 0x1CE0⟩, ⟨nat_lit 0x1CE2, nat_lit 0x1CE8⟩,
     ⟨nat_lit 0x1CED, nat_lit 0x1CED⟩, ⟨nat_lit 0x1CF4, nat_lit 0x1CF4⟩,
     ⟨nat_lit 0x1CF8, nat_lit 0x1CF9⟩, ⟨nat_lit 0x1D2C, nat_lit 0x1D6A⟩,
     ⟨nat_lit 0x1D78, nat_lit 0x1D78⟩, ⟨nat_lit 0x1D9B, nat_lit 0x1DFF⟩,
     ⟨nat_lit 0x1FBD, nat_lit 0x1FBD⟩, ⟨nat_lit 0x1FBF, nat_lit 0x1FC1⟩,
     ⟨nat_lit 0x1FCD, nat_lit 0x1FCF⟩, ⟨nat_lit 0x1FDD, nat_lit 0x1FDF⟩,
     ⟨nat_lit 0x1FED, nat_lit 0x1FEF⟩, ⟨nat_lit 0x1FFD, nat_lit 0x1FFE⟩,
     ⟨nat_lit 0x200B, nat_lit 0x200F⟩, ⟨nat_lit 0x2018, nat_lit 0x2019⟩,
     ⟨nat_lit 0x2024, nat_lit 0x2024⟩, ⟨nat_lit 0x2027, nat_lit 0x2027⟩,
     ⟨nat_lit 0x202A, nat_lit 0x202E⟩, ⟨nat_lit 0x2060, nat_lit 0x2064⟩,
     ⟨nat_lit 0x2066, nat_lit 0x206F⟩, ⟨nat_lit 0x2071, nat_lit 0x2071⟩,
     ⟨nat_lit 0x207F, nat_lit 0x207F⟩, ⟨nat_lit 0x2090, nat_lit 0x209C⟩,
     ⟨nat_lit 0x20D0, nat_lit 0x20F0⟩, ⟨nat_lit 0x2C7C, nat_lit 0x2C7D⟩,
     ⟨nat_lit 0x2CEF, nat_lit 0x2CF1⟩, ⟨nat_lit 0x2D6F, nat_lit 0x2D6F⟩,
     ⟨nat_lit 0x2D7F, nat_lit 0x2D7F⟩, ⟨nat_lit 0x2DE0, nat_lit 0x2DFF⟩,
     ⟨nat_lit 0x2E2F, nat_lit 0x2E2F⟩, ⟨nat_lit 0x3005, nat_lit 0x3005⟩,
     ⟨nat_lit 0x302A, nat_lit 0x302D⟩, ⟨nat_lit 0x3031, nat_lit 0x3035⟩,
     ⟨nat_lit 0x303B, nat_lit 0x303B⟩, ⟨nat_lit 0x3099, nat_lit 0x309E⟩,
     ⟨nat_lit 0x30FC, nat_lit 0x30FE⟩, ⟨nat_lit 0xA015, nat_lit 0xA015⟩,
     ⟨nat_lit 0xA4F8, nat_lit 0xA4FD⟩, ⟨nat_lit 0xA60C, nat_lit 0xA60C⟩,
     ⟨nat_lit 0xA66F, nat_lit 0xA672⟩, ⟨nat_lit 0xA674, nat_lit 0xA67D⟩,
     ⟨nat_lit 0xA67F, nat_lit 0xA67F⟩, ⟨nat_lit 0xA69C, nat_lit 0xA69F⟩,
     ⟨nat_lit 0xA6F0, nat_lit 0xA6F1⟩, ⟨nat_lit 0xA700, nat_lit 0xA721⟩,
     ⟨nat_lit 0xA770, nat_lit 0xA770⟩, ⟨nat_lit 0xA788, nat_lit 0xA78A⟩,
     ⟨nat_lit 0xA7F2, nat_lit 0xA7F4⟩, ⟨nat_lit 0xA7F8, nat_lit 0xA7F9⟩,
     ⟨nat_lit 0xA802, nat_lit 0xA802⟩, ⟨nat_lit 0xA806, nat_lit 0xA806⟩,
     ⟨nat_lit 0xA80B, nat_lit 0xA80B⟩, ⟨nat_lit 0xA825, nat_lit 0xA826⟩,
     ⟨nat_lit 0xA82C, nat_lit 0xA82C⟩, ⟨nat_lit 0xA8C4, nat_lit 0xA8C5⟩,
     ⟨nat_lit 0xA8E0, nat_lit 0xA8F1⟩, ⟨nat_lit 0xA8FF, nat_lit 0xA8FF⟩,
     ⟨nat_lit 0xA926, nat_lit 0xA92D⟩, ⟨nat_lit 0xA947, nat_lit 0xA951⟩,
     ⟨nat_lit 0xA980, nat_lit 0xA982⟩, ⟨nat_lit 0xA9B3, nat_lit 0xA9B3⟩,
     ⟨nat_lit 0xA9B6, nat_lit 0xA9B9⟩, ⟨nat_lit 0xA9BC, nat_lit 0xA9BD⟩,
     ⟨nat_lit 0xA9CF, nat_lit 0xA9CF⟩, ⟨nat_lit 0xA9E5, nat_lit 0xA9E6⟩,
     ⟨nat_lit 0xAA29, nat_lit 0xAA2E⟩, ⟨nat_lit 0xAA31, nat_lit 0xAA32⟩,
     ⟨nat_lit 0xAA35, nat_lit 0xAA36⟩, ⟨nat_lit 0xAA43, nat_lit 0xAA43⟩,
     ⟨nat_lit 0xAA4C, nat_lit 0xAA4C⟩, ⟨nat_lit 0xAA70, nat_lit 0xAA70⟩,
     ⟨nat_lit 0xAA7C, nat_lit 0xAA7C⟩, ⟨nat_lit 0xAAB0, nat_lit 0xAAB0⟩,
     ⟨nat_lit 0xAAB2, nat_lit 0xAAB4⟩, ⟨nat_lit 0xAAB7, nat_lit 0xAAB8⟩,
     ⟨nat_lit 0xAABE, nat_lit 0xAABF⟩, ⟨nat_lit 0xAAC1, nat_lit 0xAAC1⟩,
     ⟨nat_lit 0xAADD, nat_lit 0xAADD⟩, ⟨nat_lit 0xAAEC, nat_lit 0xAAED⟩,
     ⟨nat_lit 0xAAF3, nat_lit 0xAAF4⟩, ⟨nat_lit 0xAAF6, nat_lit 0xAAF6⟩,
     ⟨nat_lit 0xAB5B, nat_lit 0xAB5F⟩, ⟨nat_lit 0xAB69, nat_lit 0xAB6B⟩,
     ⟨nat_lit 0xABE5, nat_lit 0xABE5⟩, ⟨nat_lit 0xABE8, nat_lit 0xABE8⟩,
     ⟨nat_lit 0xABED, nat_lit 0xABED⟩, ⟨nat_lit 0xFB1E, nat_lit 0xFB1E⟩,
     ⟨nat_lit 0xFBB2, nat_lit 0xFBC2⟩, ⟨nat_lit 0xFE00, nat_lit 0xFE0F⟩,
     ⟨nat_lit 0xFE13, nat_lit 0xFE13⟩, ⟨nat_lit 0xFE20, nat_lit 0xFE2F⟩,
     ⟨nat_lit 0xFE52, nat_lit 0xFE52⟩, ⟨nat_lit 0xFE55, nat_lit 0xFE55⟩,
     ⟨nat_lit 0xFEFF, nat_lit 0xFEFF⟩, ⟨nat_lit 0xFF07, nat_lit 0xFF07⟩,
     ⟨nat_lit 0xFF0E, nat_lit 0xFF0E⟩, ⟨nat_lit 0xFF1A, nat_lit 0xFF1A⟩,
     ⟨nat_lit 0xFF3E, nat_lit 0xFF3E⟩, ⟨nat_lit 0xFF40, nat_lit 0xFF40⟩,
     ⟨nat_lit 0xFF70, nat_lit 0xFF70⟩, ⟨nat_lit 0xFF9E, nat_lit 0xFF9F⟩,
     ⟨nat_lit 0xFFE3, nat_lit 0xFFE3⟩, ⟨nat_lit 0xFFF9, nat_lit 0xFFFB⟩,
     ⟨nat_lit 0x101FD, nat_lit 0x101FD⟩, ⟨nat_lit 0x102E0, nat_lit 0x102E0⟩,
     ⟨nat_lit 0x10376, nat_lit 0x1037A⟩, ⟨nat_lit 0x10780, nat_lit 0x10785⟩,
     ⟨nat_lit 0x10787, nat_lit 0x107B0⟩, ⟨nat_lit 0x107B2, nat_lit 0x107BA⟩,
     ⟨nat_lit 0x10A01, nat_lit 0x10A03⟩, ⟨nat_lit 0x10A05, nat_lit 0x10A06⟩,
     ⟨nat_lit 0x10A0C, nat_lit 0x10A0F⟩, ⟨nat_lit 0x10A38, nat_lit 0x10A3A⟩,
     ⟨nat_lit 0x10A3F, nat_lit 0x10A3F⟩, ⟨nat_lit 0x10AE5, nat_lit 0x10AE6⟩,
     ⟨nat_lit 0x10D24, nat_lit 0x10D27⟩, ⟨nat_lit 0x10D4E, nat_lit 0x10D4E⟩,
     ⟨nat_lit 0x10D69, nat_lit 0x10D6D⟩, ⟨nat_lit 0x10D6F, nat_lit 0x10D6F⟩,
     ⟨nat_lit 0x10EAB, nat_lit 0x10EAC⟩, ⟨nat_lit 0x10EFC, nat_lit 0x10EFF⟩,
     ⟨nat_lit 0x10F46, nat_lit 0x10F50⟩, ⟨nat_lit 0x10F82, nat_lit 0x10F85⟩,
     ⟨nat_lit 0x11001, nat_lit 0x11001⟩, ⟨nat_lit 0x11038, nat_lit 0x11046⟩,
     ⟨nat_lit 0x11070, nat_lit 0x11070⟩, ⟨nat_lit 0x11073, nat_lit 0x11074⟩,
     ⟨nat_lit 0x1107F, nat_lit 0x11081⟩, ⟨nat_lit 0x110B3, nat_lit 0x110B6⟩,
     ⟨nat_lit 0x110B9, nat_lit 0x110BA⟩, ⟨nat_lit 0x110BD, nat_lit 0x110BD⟩,
     ⟨nat_lit 0x110C2, nat_lit 0x110C2⟩, ⟨nat_lit 0x110CD, nat_lit 0x110CD⟩,
     ⟨nat_lit 0x11100, nat_lit 0x11102⟩, ⟨nat_lit 0x11127, nat_lit 0x1112B⟩,
     ⟨nat_lit 0x1112D, nat_lit 0x11134⟩, ⟨nat_lit 0x11173, nat_lit 0x11173⟩,
     ⟨nat_lit 0x11180, nat_lit 0x11181⟩, ⟨nat_lit 0x111B6, nat_lit 0x111BE⟩,
     ⟨nat_lit 0x111C9, nat_lit 0x111CC⟩, ⟨nat_lit 0x111CF, nat_lit 0x111CF⟩,
     ⟨nat_lit 0x1122F, nat_lit 0x11231⟩, ⟨nat_lit 0x11234, nat_lit 0x11234⟩,
     ⟨nat_lit 0x11236, nat_lit 0x11237⟩, ⟨nat_lit 0x1123E, nat_lit 0x1123E⟩,
     ⟨nat_lit 0x11241, nat_lit 0x11241⟩, ⟨nat_lit 0x112DF, nat_lit 0x112DF⟩,
     ⟨nat_lit 0x112E3, nat_lit 0x112EA⟩, ⟨nat_lit 0x11300, nat_lit 0x11301⟩,
     ⟨nat_lit 0x1133B, nat_lit 0x1133C⟩, ⟨nat_lit 0x11340, nat_lit 0x11340⟩,
     ⟨nat_lit 0x11366, nat_lit 0x1136C⟩, ⟨nat_lit 0x11370, nat_lit 0x11374⟩,
     ⟨nat_lit 0x113BB, nat_lit 0x113C0⟩, ⟨nat_lit 0x113CE, nat_lit 0x113CE⟩,
     ⟨nat_lit 0x113D0, nat_lit 0x113D0⟩, ⟨nat_lit 0x113D2, nat_lit 0x113D2⟩,
     ⟨nat_lit 0x113E1, nat_lit 0x113E2⟩, ⟨nat_lit 0x11438, nat_lit 0x1143F⟩,
     ⟨nat_lit 0x11442, nat_lit 0x11444⟩, ⟨nat_lit 0x11446, nat_lit 0x11446⟩,
     ⟨nat_lit 0x1145E, nat_lit 0x1145E⟩, ⟨nat_lit 0x114B3, nat_lit 0x114B8⟩,
     ⟨nat_lit 0x114BA, nat_lit 0x114BA⟩, ⟨nat_lit 0x114BF, nat_lit 0x114C0⟩,
     ⟨nat_lit 0x114C2, nat_lit 0x114C3⟩, ⟨nat_lit 0x115B2, nat_lit 0x115B5⟩,
     ⟨nat_lit 0x115BC, nat_lit 0x115BD⟩, ⟨nat_lit 0x115BF, nat_lit 0x115C0⟩,
     ⟨nat_lit 0x115DC, nat_lit 0x115DD⟩, ⟨nat_lit 0x11633, nat_lit 0x1163A⟩,
     ⟨nat_lit 0x1163D, nat_lit 0x1163D⟩, ⟨nat_lit 0x1163F, nat_lit 0x11640⟩,
     ⟨nat_lit 0x116AB, nat_lit 0x116AB⟩, ⟨nat_lit 0x116AD, nat_lit 0x116AD⟩,
     ⟨nat_lit 0x116B0, nat_lit 0x116B5⟩, ⟨nat_lit 0x116B7, nat_lit 0x116B7⟩,
     ⟨nat_lit 0x1171D, nat_lit 0x1171D⟩, ⟨nat_lit 0x1171F, nat_lit 0x1171F⟩,
     ⟨nat_lit 0x11722, nat_lit 0x11725⟩, ⟨nat_lit 0x11727, nat_lit 0x1172B⟩,
     ⟨nat_lit 0x1182F, nat_lit 0x11837⟩, ⟨nat_lit 0x11839, nat_lit 0x1183A⟩,
     ⟨nat_lit 0x1193B, nat_lit 0x1193C⟩, ⟨nat_lit 0x1193E, nat_lit 0x1193E⟩,
     ⟨nat_lit 0x11943, nat_lit 0x11943⟩, ⟨nat_lit 0x119D4, nat_lit 0x119D7⟩,
     ⟨nat_lit 0x119DA, nat_lit 0x119DB⟩, ⟨nat_lit 0x119E0, nat_lit 0x119E0⟩,
     ⟨nat_lit 0x11A01, nat_lit 0x11A0A⟩, ⟨nat_lit 0x11A33, nat_lit 0x11A38⟩,
     ⟨nat_lit 0x11A3B, nat_lit 0x11A3E⟩, ⟨nat_lit 0x11A47, nat_lit 0x11A47⟩,
     ⟨nat_lit 0x11A51, nat_lit 0x11A56⟩, ⟨nat_lit 0x11A59, nat_lit 0x11A5B⟩,
     ⟨nat_lit 0x11A8A, nat_lit 0x11A96⟩, ⟨nat_lit 0x11A98, nat_lit 0x11A99⟩,
     ⟨nat_lit 0x11C30, nat_lit 0x11C36⟩, ⟨nat_lit 0x11C38, nat_lit 0x11C3D⟩,
     ⟨nat_lit 0x11C3F, nat_lit 0x11C3F⟩, ⟨nat_lit 0x11C92, nat_lit 0x11CA7⟩,
     ⟨nat_lit 0x11CAA, nat_lit 0x11CB0⟩, ⟨nat_lit 0x11CB2, nat_lit 0x11CB3⟩,
     ⟨nat_lit 0x11CB5, nat_lit 0x11CB6⟩, ⟨nat_lit 0x11D31, nat_lit 0x11D36⟩,
     ⟨nat_lit 0x11D3A, nat_lit 0x11D3A⟩, ⟨nat_lit 0x11D3C, nat_lit 0x11D3D⟩,
     ⟨nat_lit 0x11D3F, nat_lit 0x11D45⟩, ⟨nat_lit 0x11D47, nat_lit 0x11D47⟩,
     ⟨nat_lit 0x11D90, nat_lit 0x11D91⟩, ⟨nat_lit 0x11D95, nat_lit 0x11D95⟩,
     ⟨nat_lit 0x11D97, nat_lit 0x11D97⟩, ⟨nat_lit 0x11EF3, nat_lit 0x11EF4⟩,
     ⟨nat_lit 0x11F00, nat_lit 0x11F01⟩, ⟨nat_lit 0x11F36, nat_lit 0x11F3A⟩,
     ⟨nat_lit 0x11F40, nat_lit 0x11F40⟩, ⟨nat_lit 0x11F42, nat_lit 0x11F42⟩,
     ⟨nat_lit 0x11F5A, nat_lit 0x11F5A⟩, ⟨nat_lit 0x13430, nat_lit 0x13440⟩,
     ⟨nat_lit 0x13447, nat_lit 0x13455⟩, ⟨nat_lit 0x1611E, nat_lit 0x16129⟩,
     ⟨nat_lit 0x1612D, nat_lit 0x1612F⟩, ⟨nat_lit 0x16AF0, nat_lit 0x16AF4⟩,
     ⟨nat_lit 0x16B30, nat_lit 0x16B36⟩, ⟨nat_lit 0x16B40, nat_lit 0x16B43⟩,
     ⟨nat_lit 0x16D40, nat_lit 0x16D42⟩, ⟨nat_lit 0x16D6B, nat_lit 0x16D6C⟩,
     ⟨nat_lit 0x16F4F, nat_lit 0x16F4F⟩, ⟨nat_lit 0x16F8F, nat_lit 0x16F9F⟩,
     ⟨nat_lit 0x16FE0, nat_lit 0x16FE1⟩, ⟨nat_lit 0x16FE3, nat_lit 0x16FE4⟩,
     ⟨nat_lit 0x1AFF0, nat_lit 0x1AFF3⟩, ⟨nat_lit 0x1AFF5, nat_lit 0x1AFFB⟩,
     ⟨nat_lit 0x1AFFD, nat_lit 0x1AFFE⟩, ⟨nat_lit 0x1BC9D, nat_lit 0x1BC9E⟩,
     ⟨nat_lit 0x1BCA0, nat_lit 0x1BCA3⟩, ⟨nat_lit 0x1CF00, nat_lit 0x1CF2D⟩,
     ⟨nat_lit 0x1CF30, nat_lit 0x1CF46⟩, ⟨nat_lit 0x1D167, nat_lit 0x1D169⟩,
     ⟨nat_lit 0x1D173, nat_lit 0x1D182⟩, ⟨nat_lit 0x1D185, nat_lit 0x1D18B⟩,
     ⟨nat_lit 0x1D1AA, nat_lit 0x1D1AD⟩, ⟨nat_lit 0x1D242, nat_lit 0x1D244⟩,
     ⟨nat_lit 0x1DA00, nat_lit 0x1DA36⟩, ⟨nat_lit 0x1DA3B, nat_lit 0x1DA6C⟩,
     ⟨nat_lit 0x1DA75, nat_lit 0x1DA75⟩, ⟨nat_lit 0x1DA84, nat_lit 0x1DA84⟩,
     ⟨nat_lit 0x1DA9B, nat_lit 0x1DA9F⟩, ⟨nat_lit 0x1DAA1, nat_lit 0x1DAAF⟩,
     ⟨nat_lit 0x1E000, nat_lit 0x1E006⟩, ⟨nat_lit 0x1E008, nat_lit 0x1E018⟩,
     ⟨nat_lit 0x1E01B, nat_lit 0x1E021⟩, ⟨nat_lit 0x1E023, nat_lit 0x1E024⟩,
     ⟨nat_lit 0x1E026, nat_lit 0x1E02A⟩, ⟨nat_lit 0x1E030, nat_lit 0x1E06D⟩,
     ⟨nat_lit 0x1E08F, nat_lit 0x1E08F⟩, ⟨nat_lit 0x1E130, nat_lit 0x1E13D⟩,
     ⟨nat_lit 0x1E2AE, nat_lit 0x1E2AE⟩, ⟨nat_lit 0x1E2EC, nat_lit 0x1E2EF⟩,
     ⟨nat_lit 0x1E4EB, nat_lit 0x1E4EF⟩, ⟨nat_lit 0x1E5EE, nat_lit 0x1E5EF⟩,
     ⟨nat_lit 0x1E8D0, nat_lit 0x1E8D6⟩, ⟨nat_lit 0x1E944, nat_lit 0x1E94B⟩,
     ⟨nat_lit 0x1F3FB, nat_lit 0x1F3FF⟩, ⟨nat_lit 0xE0001, nat_lit 0xE0001⟩,
     ⟨nat_lit 0xE0020, nat_lit 0xE007F⟩, ⟨nat_lit 0xE0100, nat_lit 0xE01EF⟩]),
  ("Lowercase",
    [⟨nat_lit 0x61, nat_lit 0x7A⟩, ⟨nat_lit 0xAA, nat_lit 0xAA⟩, ⟨nat_lit 0xB5, nat_lit 0xB5⟩,
     ⟨nat_lit 0xBA, nat_lit 0xBA⟩, ⟨nat_lit 0xDF, nat_lit 0xF6⟩, ⟨nat_lit 0xF8, nat_lit 0xFF⟩,
     ⟨nat_lit 0x101, nat_lit 0x101⟩, ⟨nat_lit 0x103, nat_lit 0x103⟩,
     ⟨nat_lit 0x105, nat_lit 0x105⟩, ⟨nat_lit 0x107, nat_lit 0x107⟩,
     ⟨nat_lit 0x109, nat_lit 0x109⟩, ⟨nat_lit 0x10B, nat_lit 0x10B⟩,
     ⟨nat_lit 0x10D, nat_lit 0x10D⟩, ⟨nat_lit 0x10F, nat_lit 0x10F⟩,
     ⟨nat_lit 0x111, nat_lit 0x111⟩, ⟨nat_lit 0x113, nat_lit 0x113⟩,
     ⟨nat_lit 0x115, nat_lit 0x115⟩, ⟨nat_lit 0x117, nat_lit 0x117⟩,
     ⟨nat_lit 0x119, nat_lit 0x119⟩, ⟨nat_lit 0x11B, nat_lit 0x11B⟩,
     ⟨nat_lit 0x11D, nat_lit 0x11D⟩, ⟨nat_lit 0x11F, nat_lit 0x11F⟩,
     ⟨nat_lit 0x121, nat_lit 0x121⟩, ⟨nat_lit 0x123, nat_lit 0x123⟩,
     ⟨nat_lit 0x125, nat_lit 0x125⟩, ⟨nat_lit 0x127, nat_lit 0x127⟩,
     ⟨nat_lit 0x129, nat_lit 0x129⟩, ⟨nat_lit 0x12B, nat_lit 0x12B⟩,
     ⟨nat_lit 0x12D, nat_lit 0x12D⟩, ⟨nat_lit 0x12F, nat_lit 0x12F⟩,
     ⟨nat_lit 0x131, nat_lit 0x131⟩, ⟨nat_lit 0x133, nat_lit 0x133⟩,
     ⟨nat_lit 0x135, nat_lit 0x135⟩, ⟨nat_lit 0x137, nat_lit 0x138⟩,
     ⟨nat_lit 0x13A, nat_lit 0x13A⟩, ⟨nat_lit 0x13C, nat_lit 0x13C⟩,
     ⟨nat_lit 0x13E, nat_lit 0x13E⟩, ⟨nat_lit 0x140, nat_lit 0x140⟩,
     ⟨nat_lit 0x142, nat_lit 0x142⟩, ⟨nat_lit 0x144, nat_lit 0x144⟩,
     ⟨nat_lit 0x146, nat_lit 0x146⟩, ⟨nat_lit 0x148, nat_lit 0x149⟩,
     ⟨nat_lit 0x14B, nat_lit 0x14B⟩, ⟨nat_lit 0x14D, nat_lit 0x14D⟩,
     ⟨nat_lit 0x14F, nat_lit 0x14F⟩, ⟨nat_lit 0x151, nat_lit 0x151⟩,
     ⟨nat_lit 0x153, nat_lit 0x153⟩, ⟨nat_lit 0x155, nat_lit 0x155⟩,
     ⟨nat_lit 0x157, nat_lit 0x157⟩, ⟨nat_lit 0x159, nat_lit 0x159⟩,
     ⟨nat_lit 0x15B, nat_lit 0x15B⟩, ⟨nat_lit 0x15D, nat_lit 0x15D⟩,
     ⟨nat_lit 0x15F, nat_lit 0x15F⟩, ⟨nat_lit 0x161, nat_lit 0x161⟩,
     ⟨nat_lit 0x163, nat_lit 0x163⟩, ⟨nat_lit 0x165, nat_lit 0x165⟩,
     ⟨nat_lit 0x167, nat_lit 0x167⟩, ⟨nat_lit 0x169, nat_lit 0x169⟩,
     ⟨nat_lit 0x16B, nat_lit 0x16B⟩, ⟨nat_lit 0x16D, nat_lit 0x16D⟩,
     ⟨nat_lit 0x16F, nat_lit 0x16F⟩, ⟨nat_lit 0x171, nat_lit 0x171⟩,
     ⟨nat_lit 0x173, nat_lit 0x173⟩, ⟨nat_lit 0x175, nat_lit 0x175⟩,
     ⟨nat_lit 0x177, nat_lit 0x177⟩, ⟨nat_lit 0x17A, nat_lit 0x17A⟩,
     ⟨nat_lit 0x17C, nat_lit 0x17C⟩, ⟨nat_lit 0x17E, nat_lit 0x180⟩,
     ⟨nat_lit 0x183, nat_lit 0x183⟩, ⟨nat_lit 0x185, nat_lit 0x185⟩,
     ⟨nat_lit 0x188, nat_lit 0x188⟩, ⟨nat_lit 0x18C, nat_lit 0x18D⟩,
     ⟨nat_lit 0x192, nat_lit 0x192⟩, ⟨nat_lit 0x195, nat_lit 0x195⟩,
     ⟨nat_lit 0x199, nat_lit 0x19B⟩, ⟨nat_lit 0x19E, nat_lit 0x19E⟩,
     ⟨nat_lit 0x1A1, nat_lit 0x1A1⟩, ⟨nat_lit 0x1A3, nat_lit 0x1A3⟩,
     ⟨nat_lit 0x1A5, nat_lit 0x1A5⟩, ⟨nat_lit 0x1A8, nat_lit 0x1A8⟩,
     ⟨nat_lit 0x1AA, nat_lit 0x1AB⟩, ⟨nat_lit 0x1AD, nat_lit 0x1AD⟩,
     ⟨nat_lit 0x1B0, nat_lit 0x1B0⟩, ⟨nat_lit 0x1B4, nat_lit 0x1B4⟩,
     ⟨nat_lit 0x1B6, nat_lit 0x1B6⟩, ⟨nat_lit 0x1B9, nat_lit 0x1BA⟩,
     ⟨nat_lit 0x1BD, nat_lit 0x1BF⟩, ⟨nat_lit 0x1C6, nat_lit 0x1C6⟩,
     ⟨nat_lit 0x1C9, nat_lit 0x1C9⟩, ⟨nat_lit 0x1CC, nat_lit 0x1CC⟩,
     ⟨nat_lit 0x1CE, nat_lit 0x1CE⟩, ⟨nat_lit 0x1D0, nat_lit 0x1D0⟩,
     ⟨nat_lit 0x1D2, nat_lit 0x1D2⟩, ⟨nat_lit 0x1D4, nat_lit 0x1D4⟩,
     ⟨nat_lit 0x1D6, nat_lit 0x1D6⟩, ⟨nat_lit 0x1D8, nat_lit 0x1D8⟩,
     ⟨nat_lit 0x1DA, nat_lit 0x1DA⟩, ⟨nat_lit 0x1DC, nat_lit 0x1DD⟩,
     ⟨nat_lit 0x1DF, nat_lit 0x1DF⟩, ⟨nat_lit 0x1E1, nat_lit 0x1E1⟩,
     ⟨nat_lit 0x1E3, nat_lit 0x1E3⟩, ⟨nat_lit 0x1E5, nat_lit 0x1E5⟩,
     ⟨nat_lit 0x1E7, nat_lit 0x1E7⟩, ⟨nat_lit 0x1E9, nat_lit 0x1E9⟩,
     ⟨nat_lit 0x1EB, nat_lit 0x1EB⟩, ⟨nat_lit 0x1ED, nat_lit 0x1ED⟩,
     ⟨nat_lit 0x1EF, nat_lit 0x1F0⟩, ⟨nat_lit 0x1F3, nat_lit 0x1F3⟩,
     ⟨nat_lit 0x1F5, nat_lit 0x1F5⟩, ⟨nat_lit 0x1F9, nat_lit 0x1F9⟩,
     ⟨nat_lit 0x1FB, nat_lit 0x1FB⟩, ⟨nat_lit 0x1FD, nat_lit 0x1FD⟩,
     ⟨nat_lit 0x1FF, nat_lit 0x1FF⟩, ⟨nat_lit 0x201, nat_lit 0x201⟩,
     ⟨nat_lit 0x203, nat_lit 0x203⟩, ⟨nat_lit 0x205, nat_lit 0x205⟩,
     ⟨nat_lit 0x207, nat_lit 0x207⟩, ⟨nat_lit 0x209, nat_lit 0x209⟩,
     ⟨nat_lit 0x20B, nat_lit 0x20B⟩, ⟨nat_lit 0x20D, nat_lit 0x20D⟩,
     ⟨nat_lit 0x20F, nat_lit 0x20F⟩, ⟨nat_lit 0x211, nat_lit 0x211⟩,
     ⟨nat_lit 0x213, nat_lit 0x213⟩, ⟨nat_lit 0x215, nat_lit 0x215⟩,
     ⟨nat_lit 0x217, nat_lit 0x217⟩, ⟨nat_lit 0x219, nat_lit 0x219⟩,
     ⟨nat_lit 0x21B, nat_lit 0x21B⟩, ⟨nat_lit 0x21D, nat_lit 0x21D⟩,
     ⟨nat_lit 0x21F, nat_lit 0x21F⟩, ⟨nat_lit 0x221, nat_lit 0x221⟩,
     ⟨nat_lit 0x223, nat_lit 0x223⟩, ⟨nat_lit 0x225, nat_lit 0x225⟩,
     ⟨nat_lit 0x227, nat_lit 0x227⟩, ⟨nat_lit 0x229, nat_lit 0x229⟩,
     ⟨nat_lit 0x22B, nat_lit 0x22B⟩, ⟨nat_lit 0x22D, nat_lit 0x22D⟩,
     ⟨nat_lit 0x22F, nat_lit 0x22F⟩, ⟨nat_lit 0x231, nat_lit 0x231⟩,
     ⟨nat_lit 0x233, nat_lit 0x239⟩, ⟨nat_lit 0x23C, nat_lit 0x23C⟩,
     ⟨nat_lit 0x23F, nat_lit 0x240⟩, ⟨nat_lit 0x242, nat_lit 0x242⟩,
     ⟨nat_lit 0x247, nat_lit 0x247⟩, ⟨nat_lit 0x249, nat_lit 0x249⟩,
     ⟨nat_lit 0x24B, nat_lit 0x24B⟩, ⟨nat_lit 0x24D, nat_lit 0x24D⟩,
     ⟨nat_lit 0x24F, nat_lit 0x293⟩, ⟨nat_lit 0x295, nat_lit 0x2B8⟩,
     ⟨nat_lit 0x2C0, nat_lit 0x2C1⟩, ⟨nat_lit 0x2E0, nat_lit 0x2E4⟩,
     ⟨nat_lit 0x345, nat_lit 0x345⟩, ⟨nat_lit 0x371, nat_lit 0x371⟩,
     ⟨nat_lit 0x373, nat_lit 0x373⟩, ⟨nat_lit 0x377, nat_lit 0x377⟩,
     ⟨nat_lit 0x37A, nat_lit 0x37D⟩, ⟨nat_lit 0x390, nat_lit 0x390⟩,
     ⟨nat_lit 0x3AC, nat_lit 0x3CE⟩, ⟨nat_lit 0x3D0, nat_lit 0x3D1⟩,
     ⟨nat_lit 0x3D5, nat_lit 0x3D7⟩, ⟨nat_lit 0x3D9, nat_lit 0x3D9⟩,
     ⟨nat_lit 0x3DB, nat_lit 0x3DB⟩, ⟨nat_lit 0x3DD, nat_lit 0x3DD⟩,
     ⟨nat_lit 0x3DF, nat_lit 0x3DF⟩, ⟨nat_lit 0x3E1, nat_lit 0x3E1⟩,
     ⟨nat_lit 0x3E3, nat_lit 0x3E3⟩, ⟨nat_lit 0x3E5, nat_lit 0x3E5⟩,
     ⟨nat_lit 0x3E7, nat_lit 0x3E7⟩, ⟨nat_lit 0x3E9, nat_lit 0x3E9⟩,
     ⟨nat_lit 0x3EB, nat_lit 0x3EB⟩, ⟨nat_lit 0x3ED, nat_lit 0x3ED⟩,
     ⟨nat_lit 0x3EF, nat_lit 0x3F3⟩, ⟨nat_lit 0x3F5, nat_lit 0x3F5⟩,
     ⟨nat_lit 0x3F8, nat_lit 0x3F8⟩, ⟨nat_lit 0x3FB, nat_lit 0x3FC⟩,
     ⟨nat_lit 0x430, nat_lit 0x45F⟩, ⟨nat_lit 0x461, nat_lit 0x461⟩,
     ⟨nat_lit 0x463, nat_lit 0x463⟩, ⟨nat_lit 0x465, nat_lit 0x465⟩,
     ⟨nat_lit 0x467, nat_lit 0x467⟩, ⟨nat_lit 0x469, nat_lit 0x469⟩,
     ⟨nat_lit 0x46B, nat_lit 0x46B⟩, ⟨nat_lit 0x46D, nat_lit 0x46D⟩,
     ⟨nat_lit 0x46F, nat_lit 0x46F⟩, ⟨nat_lit 0x471, nat_lit 0x471⟩,
     ⟨nat_lit 0x473, nat_lit 0x473⟩, ⟨nat_lit 0x475, nat_lit 0x475⟩,
     ⟨nat_lit 0x477, nat_lit 0x477⟩, ⟨nat_lit 0x479, nat_lit 0x479⟩,
     ⟨nat_lit 0x47B, nat_lit 0x47B⟩, ⟨nat_lit 0x47D, nat_lit 0x47D⟩,
     ⟨nat_lit 0x47F, nat_lit 0x47F⟩, ⟨nat_lit 0x481, nat_lit 0x481⟩,
     ⟨nat_lit 0x48B, nat_lit 0x48B⟩, ⟨nat_lit 0x48D, nat_lit 0x48D⟩,
     ⟨nat_lit 0x48F, nat_lit 0x48F⟩, ⟨nat_lit 0x491, nat_lit 0x491⟩,
     ⟨nat_lit 0x493, nat_lit 0x493⟩, ⟨nat_lit 0x495, nat_lit 0x495⟩,
     ⟨nat_lit 0x497, nat_lit 0x497⟩, ⟨nat_lit 0x499, nat_lit 0x499⟩,
     ⟨nat_lit 0x49B, nat_lit 0x49B⟩, ⟨nat_lit 0x49D, nat_lit 0x49D⟩,
     ⟨nat_lit 0x49F, nat_lit 0x49F⟩, ⟨nat_lit 0x4A1, nat_lit 0x4A1⟩,
     ⟨nat_lit 0x4A3, nat_lit 0x4A3⟩, ⟨nat_lit 0x4A5, nat_lit 0x4A5⟩,
     ⟨nat_lit 0x4A7, nat_lit 0x4A7⟩, ⟨nat_lit 0x4A9, nat_lit 0x4A9⟩,
     ⟨nat_lit 0x4AB, nat_lit 0x4AB⟩, ⟨nat_lit 0x4AD, nat_lit 0x4AD⟩,
     ⟨nat_lit 0x4AF, nat_lit 0x4AF⟩, ⟨nat_lit 0x4B1, nat_lit 0x4B1⟩,
     ⟨nat_lit 0x4B3, nat_lit 0x4B3⟩, ⟨nat_lit 0x4B5, nat_lit 0x4B5⟩,
     ⟨nat_lit 0x4B7, nat_lit 0x4B7⟩, ⟨nat_lit 0x4B9, nat_lit 0x4B9⟩,
     ⟨nat_lit 0x4BB, nat_lit 0x4BB⟩, ⟨nat_lit 0x4BD, nat_lit 0x4BD⟩,
     ⟨nat_lit 0x4BF, nat_lit 0x4BF⟩, ⟨nat_lit 0x4C2, nat_lit 0x4C2⟩,
     ⟨nat_lit 0x4C4, nat_lit 0x4C4⟩, ⟨nat_lit 0x4C6, nat_lit 0x4C6⟩,
     ⟨nat_lit 0x4C8, nat_lit 0x4C8⟩, ⟨nat_lit 0x4CA, nat_lit 0x4CA⟩,
     ⟨nat_lit 0x4CC, nat_lit 0x4CC⟩, ⟨nat_lit 0x4CE, nat_lit 0x4CF⟩,
     ⟨nat_lit 0x4D1, nat_lit 0x4D1⟩, ⟨nat_lit 0x4D3, nat_lit 0x4D3⟩,
     ⟨nat_lit 0x4D5, nat_lit 0x4D5⟩, ⟨nat_lit 0x4D7, nat_lit 0x4D7⟩,
     ⟨nat_lit 0x4D9, nat_lit 0x4D9⟩, ⟨nat_lit 0x4DB, nat_lit 0x4DB⟩,
     ⟨nat_lit 0x4DD, nat_lit 0x4DD⟩, ⟨nat_lit 0x4DF, nat_lit 0x4DF⟩,
     ⟨nat_lit 0x4E1, nat_lit 0x4E1⟩, ⟨nat_lit 0x4E3, nat_lit 0x4E3⟩,
     ⟨nat_lit 0x4E5, nat_lit 0x4E5⟩, ⟨nat_lit 0x4E7, nat_lit 0x4E7⟩,
     ⟨nat_lit 0x4E9, nat_lit 0x4E9⟩, ⟨nat_lit 0x4EB, nat_lit 0x4EB⟩,
     ⟨nat_lit 0x4ED, nat_lit 0x4ED⟩, ⟨nat_lit 0x4EF, nat_lit 0x4EF⟩,
     ⟨nat_lit 0x4F1, nat_lit 0x4F1⟩, ⟨nat_lit 0x4F3, nat_lit 0x4F3⟩,
     ⟨nat_lit 0x4F5, nat_lit 0x4F5⟩, ⟨nat_lit 0x4F7, nat_lit 0x4F7⟩,
     ⟨nat_lit 0x4F9, nat_lit 0x4F9⟩, ⟨nat_lit 0x4FB, nat_lit 0x4FB⟩,
     ⟨nat_lit 0x4FD, nat_lit 0x4FD⟩, ⟨nat_lit 0x4FF, nat_lit 0x4FF⟩,
     ⟨nat_lit 0x501, nat_lit 0x501⟩, ⟨nat_lit 0x503, nat_lit 0x503⟩,
     ⟨nat_lit 0x505, nat_lit 0x505⟩, ⟨nat_lit 0x507, nat_lit 0x507⟩,
     ⟨nat_lit 0x509, nat_lit 0x509⟩, ⟨nat_lit 0x50B, nat_lit 0x50B⟩,
     ⟨nat_lit 0x50D, nat_lit 0x50D⟩, ⟨nat_lit 0x50F, nat_lit 0x50F⟩,
     ⟨nat_lit 0x511, nat_lit 0x511⟩, ⟨nat_lit 0x513, nat_lit 0x513⟩,
     ⟨nat_lit 0x515, nat_lit 0x515⟩, ⟨nat_lit 0x517, nat_lit 0x517⟩,
     ⟨nat_lit 0x519, nat_lit 0x519⟩, ⟨nat_lit 0x51B, nat_lit 0x51B⟩,
     ⟨nat_lit 0x51D, nat_lit 0x51D⟩, ⟨nat_lit 0x51F, nat_lit 0x51F⟩,
     ⟨nat_lit 0x521, nat_lit 0x521⟩, ⟨nat_lit 0x523, nat_lit 0x523⟩,
     ⟨nat_lit 0x525, nat_lit 0x525⟩, ⟨nat_lit 0x527, nat_lit 0x527⟩,
     ⟨nat_lit 0x529, nat_lit 0x529⟩, ⟨nat_lit 0x52B, nat_lit 0x52B⟩,
     ⟨nat_lit 0x52D, nat_lit 0x52D⟩, ⟨nat_lit 0x52F, nat_lit 0x52F⟩,
     ⟨nat_lit 0x560, nat_lit 0x588⟩, ⟨nat_lit 0x10D0, nat_lit 0x10FA⟩,
     ⟨nat_lit 0x10FC, nat_lit 0x10FF⟩, ⟨nat_lit 0x13F8, nat_lit 0x13FD⟩,
     ⟨nat_lit 0x1C80, nat_lit 0x1C88⟩, ⟨nat_lit 0x1C8A, nat_lit 0x1C8A⟩,
     ⟨nat_lit 0x1D00, nat_lit 0x1DBF⟩, ⟨nat_lit 0x1E01, nat_lit 0x1E01⟩,
     ⟨nat_lit 0x1E03, nat_lit 0x1E03⟩, ⟨nat_lit 0x1E05, nat_lit 0x1E05⟩,
     ⟨nat_lit 0x1E07, nat_lit 0x1E07⟩, ⟨nat_lit 0x1E09, nat_lit 0x1E09⟩,
     ⟨nat_lit 0x1E0B, nat_lit 0x1E0B⟩, ⟨nat_lit 0x1E0D, nat_lit 0x1E0D⟩,
     ⟨nat_lit 0x1E0F, nat_lit 0x1E0F⟩, ⟨nat_lit 0x1E11, nat_lit 0x1E11⟩,
     ⟨nat_lit 0x1E13, nat_lit 0x1E13⟩, ⟨nat_lit 0x1E15, nat_lit 0x1E15⟩,
     ⟨nat_lit 0x1E17, nat_lit 0x1E17⟩, ⟨nat_lit 0x1E19, nat_lit 0x1E19⟩,
     ⟨nat_lit 0x1E1B, nat_lit 0x1E1B⟩, ⟨nat_lit 0x1E1D, nat_lit 0x1E1D⟩,
     ⟨nat_lit 0x1E1F, nat_lit 0x1E1F⟩, ⟨nat_lit 0x1E21, nat_lit 0x1E21⟩,
     ⟨nat_lit 0x1E23, nat_lit 0x1E23⟩, ⟨nat_lit 0x1E25, nat_lit 0x1E25⟩,
     ⟨nat_lit 0x1E27, nat_lit 0x1E27⟩, ⟨nat_lit 0x1E29, nat_lit 0x1E29⟩,
     ⟨nat_lit 0x1E2B, nat_lit 0x1E2B⟩, ⟨nat_lit 0x1E2D, nat_lit 0x1E2D⟩,
     ⟨nat_lit 0x1E2F, nat_lit 0x1E2F⟩, ⟨nat_lit 0x1E31, nat_lit 0x1E31⟩,
     ⟨nat_lit 0x1E33, nat_lit 0x1E33⟩, ⟨nat_lit 0x1E35, nat_lit 0x1E35⟩,
     ⟨nat_lit 0x1E37, nat_lit 0x1E37⟩, ⟨nat_lit 0x1E39, nat_lit 0x1E39⟩,
     ⟨nat_lit 0x1E3B, nat_lit 0x1E3B⟩, ⟨nat_lit 0x1E3D, nat_lit 0x1E3D⟩,
     ⟨nat_lit 0x1E3F, nat_lit 0x1E3F⟩, ⟨nat_lit 0x1E41, nat_lit 0x1E41⟩,
     ⟨nat_lit 0x1E43, nat_lit 0x1E43⟩, ⟨nat_lit 0x1E45, nat_lit 0x1E45⟩,
     ⟨nat_lit 0x1E47, nat_lit 0x1E47⟩, ⟨nat_lit 0x1E49, nat_lit 0x1E49⟩,
     ⟨nat_lit 0x1E4B, nat_lit 0x1E4B⟩, ⟨nat_lit 0x1E4D, nat_lit 0x1E4D⟩,
     ⟨nat_lit 0x1E4F, nat_lit 0x1E4F⟩, ⟨nat_lit 0x1E51, nat_lit 0x1E51⟩,
     ⟨nat_lit 0x1E53, nat_lit 0x1E53⟩, ⟨nat_lit 0x1E55, nat_lit 0x1E55⟩,
     ⟨nat_lit 0x1E57, nat_lit 0x1E57⟩, ⟨nat_lit 0x1E59, nat_lit 0x1E59⟩,
     ⟨nat_lit 0x1E5B, nat_lit 0x1E5B⟩, ⟨nat_lit 0x1E5D, nat_lit 0x1E5D⟩,
     ⟨nat_lit 0x1E5F, nat_lit 0x1E5F⟩, ⟨nat_lit 0x1E61, nat_lit 0x1E61⟩,
     ⟨nat_lit 0x1E63, nat_lit 0x1E63⟩, ⟨nat_lit 0x1E65, nat_lit 0x1E65⟩,
     ⟨nat_lit 0x1E67, nat_lit 0x1E67⟩, ⟨nat_lit 0x1E69, nat_lit 0x1E69⟩,
     ⟨nat_lit 0x1E6B, nat_lit 0x1E6B⟩, ⟨nat_lit 0x1E6D, nat_lit 0x1E6D⟩,
     ⟨nat_lit 0x1E6F, nat_lit 0x1E6F⟩, ⟨nat_lit 0x1E71, nat_lit 0x1E71⟩,
     ⟨nat_lit 0x1E73, nat_lit 0x1E73⟩, ⟨nat_lit 0x1E75, nat_lit 0x1E75⟩,
     ⟨nat_lit 0x1E77, nat_lit 0x1E77⟩, ⟨nat_lit 0x1E79, nat_lit 0x1E79⟩,
     ⟨nat_lit 0x1E7B, nat_lit 0x1E7B⟩, ⟨nat_lit 0x1E7D, nat_lit 0x1E7D⟩,
     ⟨nat_lit 0x1E7F, nat_lit 0x1E7F⟩, ⟨nat_lit 0x1E81, nat_lit 0x1E81⟩,
     ⟨nat_lit 0x1E83, nat_lit 0x1E83⟩, ⟨nat_lit 0x1E85, nat_lit 0x1E85⟩,
     ⟨nat_lit 0x1E87, nat_lit 0x1E87⟩, ⟨nat_lit 0x1E89, nat_lit 0x1E89⟩,
     ⟨nat_lit 0x1E8B, nat_lit 0x1E8B⟩, ⟨nat_lit 0x1E8D, nat_lit 0x1E8D⟩,
     ⟨nat_lit 0x1E8F, nat_lit 0x1E8F⟩, ⟨nat_lit 0x1E91, nat_lit 0x1E91⟩,
     ⟨nat_lit 0x1E93, nat_lit 0x1E93⟩, ⟨nat_lit 0x1E95, nat_lit 0x1E9D⟩,
     ⟨nat_lit 0x1E9F, nat_lit 0x1E9F⟩, ⟨nat_lit 0x1EA1, nat_lit 0x1EA1⟩,
     ⟨nat_lit 0x1EA3, nat_lit 0x1EA3⟩, ⟨nat_lit 0x1EA5, nat_lit 0x1EA5⟩,
     ⟨nat_lit 0x1EA7, nat_lit 0x1EA7⟩, ⟨nat_lit 0x1EA9, nat_lit 0x1EA9⟩,
     ⟨nat_lit 0x1EAB, nat_lit 0x1EAB⟩, ⟨nat_lit 0x1EAD, nat_lit 0x1EAD⟩,
     ⟨nat_lit 0x1EAF, nat_lit 0x1EAF⟩, ⟨nat_lit 0x1EB1, nat_lit 0x1EB1⟩,
     ⟨nat_lit 0x1EB3, nat_lit 0x1EB3⟩, ⟨nat_lit 0x1EB5, nat_lit 0x1EB5⟩,
     ⟨nat_lit 0x1EB7, nat_lit 0x1EB7⟩, ⟨nat_lit 0x1EB9, nat_lit 0x1EB9⟩,
     ⟨nat_lit 0x1EBB, nat_lit 0x1EBB⟩, ⟨nat_lit 0x1EBD, nat_lit 0x1EBD⟩,
     ⟨nat_lit 0x1EBF, nat_lit 0x1EBF⟩, ⟨nat_lit 0x1EC1, nat_lit 0x1EC1⟩,
     ⟨nat_lit 0x1EC3, nat_lit 0x1EC3⟩, ⟨nat_lit 0x1EC5, nat_lit 0x1EC5⟩,
     ⟨nat_lit 0x1EC7, nat_lit 0x1EC7⟩, ⟨nat_lit 0x1EC9, nat_lit 0x1EC9⟩,
     ⟨nat_lit 0x1ECB, nat_lit 0x1ECB⟩, ⟨nat_lit 0x1ECD, nat_lit 0x1ECD⟩,
     ⟨nat_lit 0x1ECF, nat_lit 0x1ECF⟩, ⟨nat_lit 0x1ED1, nat_lit 0x1ED1⟩,
     ⟨nat_lit 0x1ED3, nat_lit 0x1ED3⟩, ⟨nat_lit 0x1ED5, nat_lit 0x1ED5⟩,
     ⟨nat_lit 0x1ED7, nat_lit 0x1ED7⟩, ⟨nat_lit 0x1ED9, nat_lit 0x1ED9⟩,
     ⟨nat_lit 0x1EDB, nat_lit 0x1EDB⟩, ⟨nat_lit 0x1EDD, nat_lit 0x1EDD⟩,
     ⟨nat_lit 0x1EDF, nat_lit 0x1EDF⟩, ⟨nat_lit 0x1EE1, nat_lit 0x1EE1⟩,
     ⟨nat_lit 0x1EE3, nat_lit 0x1EE3⟩, ⟨nat_lit 0x1EE5, nat_lit 0x1EE5⟩,
     ⟨nat_lit 0x1EE7, nat_lit 0x1EE7⟩, ⟨nat_lit 0x1EE9, nat_lit 0x1EE9⟩,
     ⟨nat_lit 0x1EEB, nat_lit 0x1EEB⟩, ⟨nat_lit 0x1EED, nat_lit 0x1EED⟩,
     ⟨nat_lit 0x1EEF, nat_lit 0x1EEF⟩, ⟨nat_lit 0x1EF1, nat_lit 0x1EF1⟩,
     ⟨nat_lit 0x1EF3, nat_lit 0x1EF3⟩, ⟨nat_lit 0x1EF5, nat_lit 0x1EF5⟩,
     ⟨nat_lit 0x1EF7, nat_lit 0x1EF7⟩, ⟨nat_lit 0x1EF9, nat_lit 0x1EF9⟩,
     ⟨nat_lit 0x1EFB, nat_lit 0x1EFB⟩, ⟨nat_lit 0x1EFD, nat_lit 0x1EFD⟩,
     ⟨nat_lit 0x1EFF, nat_lit 0x1F07⟩, ⟨nat_lit 0x1F10, nat_lit 0x1F15⟩,
     ⟨nat_lit 0x1F20, nat_lit 0x1F27⟩, ⟨nat_lit 0x1F30, nat_lit 0x1F37⟩,
     ⟨nat_lit 0x1F40, nat_lit 0x1F45⟩, ⟨nat_lit 0x1F50, nat_lit 0x1F57⟩,
     ⟨nat_lit 0x1F60, nat_lit 0x1F67⟩, ⟨nat_lit 0x1F70, nat_lit 0x1F7D⟩,
     ⟨nat_lit 0x1F80, nat_lit 0x1F87⟩, ⟨nat_lit 0x1F90, nat_lit 0x1F97⟩,
     ⟨nat_lit 0x1FA0, nat_lit 0x1FA7⟩, ⟨nat_lit 0x1FB0, nat_lit 0x1FB4⟩,
     ⟨nat_lit 0x1FB6, nat_lit 0x1FB7⟩, ⟨nat_lit 0x1FBE, nat_lit 0x1FBE⟩,
     ⟨nat_lit 0x1FC2, nat_lit 0x1FC4⟩, ⟨nat_lit 0x1FC6, nat_lit 0x1FC7⟩,
     ⟨nat_lit 0x1FD0, nat_lit 0x1FD3⟩, ⟨nat_lit 0x1FD6, nat_lit 0x1FD7⟩,
     ⟨nat_lit 0x1FE0, nat_lit 0x1FE7⟩, ⟨nat_lit 0x1FF2, nat_lit 0x1FF4⟩,
     ⟨nat_lit 0x1FF6, nat_lit 0x1FF7⟩, ⟨nat_lit 0x2071, nat_lit 0x2071⟩,
     ⟨nat_lit 0x207F, nat_lit 0x207F⟩, ⟨nat_lit 0x2090, nat_lit 0x209C⟩,
     ⟨nat_lit 0x210A, nat_lit 0x210A⟩, ⟨nat_lit 0x210E, nat_lit 0x210F⟩,
     ⟨nat_lit 0x2113, nat_lit 0x2113⟩, ⟨nat_lit 0x212F, nat_lit 0x212F⟩,
     ⟨nat_lit 0x2134, nat_lit 0x2134⟩, ⟨nat_lit 0x2139, nat_lit 0x2139⟩,
     ⟨nat_lit 0x213C, nat_lit 0x213D⟩, ⟨nat_lit 0x2146, nat_lit 0x2149⟩,
     ⟨nat_lit 0x214E, nat_lit 0x214E⟩, ⟨nat_lit 0x2170, nat_lit 0x217F⟩,
     ⟨nat_lit 0x2184, nat_lit 0x2184⟩, ⟨nat_lit 0x24D0, nat_lit 0x24E9⟩,
     ⟨nat_lit 0x2C30, nat_lit 0x2C5F⟩, ⟨nat_lit 0x2C61, nat_lit 0x2C61⟩,
     ⟨nat_lit 0x2C65, nat_lit 0x2C66⟩, ⟨nat_lit 0x2C68, nat_lit 0x2C68⟩,
     ⟨nat_lit 0x2C6A, nat_lit 0x2C6A⟩, ⟨nat_lit 0x2C6C, nat_lit 0x2C6C⟩,
     ⟨nat_lit 0x2C71, nat_lit 0x2C71⟩, ⟨nat_lit 0x2C73, nat_lit 0x2C74⟩,
     ⟨nat_lit 0x2C76, nat_lit 0x2C7D⟩, ⟨nat_lit 0x2C81, nat_lit 0x2C81⟩,
     ⟨nat_lit 0x2C83, nat_lit 0x2C83⟩, ⟨nat_lit 0x2C85, nat_lit 0x2C85⟩,
     ⟨nat_lit 0x2C87, nat_lit 0x2C87⟩, ⟨nat_lit 0x2C89, nat_lit 0x2C89⟩,
     ⟨nat_lit 0x2C8B, nat_lit 0x2C8B⟩, ⟨nat_lit 0x2C8D, nat_lit 0x2C8D⟩,
     ⟨nat_lit 0x2C8F, nat_lit 0x2C8F⟩, ⟨nat_lit 0x2C91, nat_lit 0x2C91⟩,
     ⟨nat_lit 0x2C93, nat_lit 0x2C93⟩, ⟨nat_lit 0x2C95, nat_lit 0x2C95⟩,
     ⟨nat_lit 0x2C97, nat_lit 0x2C97⟩, ⟨nat_lit 0x2C99, nat_lit 0x2C99⟩,
     ⟨nat_lit 0x2C9B, nat_lit 0x2C9B⟩, ⟨nat_lit 0x2C9D, nat_lit 0x2C9D⟩,
     ⟨nat_lit 0x2C9F, nat_lit 0x2C9F⟩, ⟨nat_lit 0x2CA1, nat_lit 0x2CA1⟩,
     ⟨nat_lit 0x2CA3, nat_lit 0x2CA3⟩, ⟨nat_lit 0x2CA5, nat_lit 0x2CA5⟩,
     ⟨nat_lit 0x2CA7, nat_lit 0x2CA7⟩, ⟨nat_lit 0x2CA9, nat_lit 0x2CA9⟩,
     ⟨nat_lit 0x2CAB, nat_lit 0x2CAB⟩, ⟨nat_lit 0x2CAD, nat_lit 0x2CAD⟩,
     ⟨nat_lit 0x2CAF, nat_lit 0x2CAF⟩, ⟨nat_lit 0x2CB1, nat_lit 0x2CB1⟩,
     ⟨nat_lit 0x2CB3, nat_lit 0x2CB3⟩, ⟨nat_lit 0x2CB5, nat_lit 0x2CB5⟩,
     ⟨nat_lit 0x2CB7, nat_lit 0x2CB7⟩, ⟨nat_lit 0x2CB9, nat_lit 0x2CB9⟩,
     ⟨nat_lit 0x2CBB, nat_lit 0x2CBB⟩, ⟨nat_lit 0x2CBD, nat_lit 0x2CBD⟩,
     ⟨nat_lit 0x2CBF, nat_lit 0x2CBF⟩, ⟨nat_lit 0x2CC1, nat_lit 0x2CC1⟩,
     ⟨nat_lit 0x2CC3, nat_lit 0x2CC3⟩, ⟨nat_lit 0x2CC5, nat_lit 0x2CC5⟩,
     ⟨nat_lit 0x2CC7, nat_lit 0x2CC7⟩, ⟨nat_lit 0x2CC9, nat_lit 0x2CC9⟩,
     ⟨nat_lit 0x2CCB, nat_lit 0x2CCB⟩, ⟨nat_lit 0x2CCD, nat_lit 0x2CCD⟩,
     ⟨nat_lit 0x2CCF, nat_lit 0x2CCF⟩, ⟨nat_lit 0x2CD1, nat_lit 0x2CD1⟩,
     ⟨nat_lit 0x2CD3, nat_lit 0x2CD3⟩, ⟨nat_lit 0x2CD5, nat_lit 0x2CD5⟩,
     ⟨nat_lit 0x2CD7, nat_lit 0x2CD7⟩, ⟨nat_lit 0x2CD9, nat_lit 0x2CD9⟩,
     ⟨nat_lit 0x2CDB, nat_lit 0x2CDB⟩, ⟨nat_lit 0x2CDD, nat_lit 0x2CDD⟩,
     ⟨nat_lit 0x2CDF, nat_lit 0x2CDF⟩, ⟨nat_lit 0x2CE1, nat_lit 0x2CE1⟩,
     ⟨nat_lit 0x2CE3, nat_lit 0x2CE4⟩, ⟨nat_lit 0x2CEC, nat_lit 0x2CEC⟩,
     ⟨nat_lit 0x2CEE, nat_lit 0x2CEE⟩, ⟨nat_lit 0x2CF3, nat_lit 0x2CF3⟩,
     ⟨nat_lit 0x2D00, nat_lit 0x2D25⟩, ⟨nat_lit 0x2D27, nat_lit 0x2D27⟩,
     ⟨nat_lit 0x2D2D, nat_lit 0x2D2D⟩, ⟨nat_lit 0xA641, nat_lit 0xA641⟩,
     ⟨nat_lit 0xA643, nat_lit 0xA643⟩, ⟨nat_lit 0xA645, nat_lit 0xA645⟩,
     ⟨nat_lit 0xA647, nat_lit 0xA647⟩, ⟨nat_lit 0xA649, nat_lit 0xA649⟩,
     ⟨nat_lit 0xA64B, nat_lit 0xA64B⟩, ⟨nat_lit 0xA64D, nat_lit 0xA64D⟩,
     ⟨nat_lit 0xA64F, nat_lit 0xA64F⟩, ⟨nat_lit 0xA651, nat_lit 0xA651⟩,
     ⟨nat_lit 0xA653, nat_lit 0xA653⟩, ⟨nat_lit 0xA655, nat_lit 0xA655⟩,
     ⟨nat_lit 0xA657, nat_lit 0xA657⟩, ⟨nat_lit 0xA659, nat_lit 0xA659⟩,
     ⟨nat_lit 0xA65B, nat_lit 0xA65B⟩, ⟨nat_lit 0xA65D, nat_lit 0xA65D⟩,
     ⟨nat_lit 0xA65F, nat_lit 0xA65F⟩, ⟨nat_lit 0xA661, nat_lit 0xA661⟩,
     ⟨nat_lit 0xA663, nat_lit 0xA663⟩, ⟨nat_lit 0xA665, nat_lit 0xA665⟩,
     ⟨nat_lit 0xA667, nat_lit 0xA667⟩, ⟨nat_lit 0xA669, nat_lit 0xA669⟩,
     ⟨nat_lit 0xA66B, nat_lit 0xA66B⟩, ⟨nat_lit 0xA66D, nat_lit 0xA66D⟩,
     ⟨nat_lit 0xA681, nat_lit 0xA681⟩, ⟨nat_lit 0xA683, nat_lit 0xA683⟩,
     ⟨nat_lit 0xA685, nat_lit 0xA685⟩, ⟨nat_lit 0xA687, nat_lit 0xA687⟩,
     ⟨nat_lit 0xA689, nat_lit 0xA689⟩, ⟨nat_lit 0xA68B, nat_lit 0xA68B⟩,
     ⟨nat_lit 0xA68D, nat_lit 0xA68D⟩, ⟨nat_lit 0xA68F, nat_lit 0xA68F⟩,
     ⟨nat_lit 0xA691, nat_lit 0xA691⟩, ⟨nat_lit 0xA693, nat_lit 0xA693⟩,
     ⟨nat_lit 0xA695, nat_lit 0xA695⟩, ⟨nat_lit 0xA697, nat_lit 0xA697⟩,
     ⟨nat_lit 0xA699, nat_lit 0xA699⟩, ⟨nat_lit 0xA69B, nat_lit 0xA69D⟩,
     ⟨nat_lit 0xA723, nat_lit 0xA723⟩, ⟨nat_lit 0xA725, nat_lit 0xA725⟩,
     ⟨nat_lit 0xA727, nat_lit 0xA727⟩, ⟨nat_lit 0xA729, nat_lit 0xA729⟩,
     ⟨nat_lit 0xA72B, nat_lit 0xA72B⟩, ⟨nat_lit 0xA72D, nat_lit 0xA72D⟩,
     ⟨nat_lit 0xA72F, nat_lit 0xA731⟩, ⟨nat_lit 0xA733, nat_lit 0xA733⟩,
     ⟨nat_lit 0xA735, nat_lit 0xA735⟩, ⟨nat_lit 0xA737, nat_lit 0xA737⟩,
     ⟨nat_lit 0xA739, nat_lit 0xA739⟩, ⟨nat_lit 0xA73B, nat_lit 0xA73B⟩,
     ⟨nat_lit 0xA73D, nat_lit 0xA73D⟩, ⟨nat_lit 0xA73F, nat_lit 0xA73F⟩,
     ⟨nat_lit 0xA741, nat_lit 0xA741⟩, ⟨nat_lit 0xA743, nat_lit 0xA743⟩,
     ⟨nat_lit 0xA745, nat_lit 0xA745⟩, ⟨nat_lit 0xA747, nat_lit 0xA747⟩,
     ⟨nat_lit 0xA749, nat_lit 0xA749⟩, ⟨nat_lit 0xA74B, nat_lit 0xA74B⟩,
     ⟨nat_lit 0xA74D, nat_lit 0xA74D⟩, ⟨nat_lit 0xA74F, nat_lit 0xA74F⟩,
     ⟨nat_lit 0xA751, nat_lit 0xA751⟩, ⟨nat_lit 0xA753, nat_lit 0xA753⟩,
     ⟨nat_lit 0xA755, nat_lit 0xA755⟩, ⟨nat_lit 0xA757, nat_lit 0xA757⟩,
     ⟨nat_lit 0xA759, nat_lit 0xA759⟩, ⟨nat_lit 0xA75B, nat_lit 0xA75B⟩,
     ⟨nat_lit 0xA75D, nat_lit 0xA75D⟩, ⟨nat_lit 0xA75F, nat_lit 0xA75F⟩,
     ⟨nat_lit 0xA761, nat_lit 0xA761⟩, ⟨nat_lit 0xA763, nat_lit 0xA763⟩,
     ⟨nat_lit 0xA765, nat_lit 0xA765⟩, ⟨nat_lit 0xA767, nat_lit 0xA767⟩,
     ⟨nat_lit 0xA769, nat_lit 0xA769⟩, ⟨nat_lit 0xA76B, nat_lit 0xA76B⟩,
     ⟨nat_lit 0xA76D, nat_lit 0xA76D⟩, ⟨nat_lit 0xA76F, nat_lit 0xA778⟩,
     ⟨nat_lit 0xA77A, nat_lit 0xA77A⟩, ⟨nat_lit 0xA77C, nat_lit 0xA77C⟩,
     ⟨nat_lit 0xA77F, nat_lit 0xA77F⟩, ⟨nat_lit 0xA781, nat_lit 0xA781⟩,
     ⟨nat_lit 0xA783, nat_lit 0xA783⟩, ⟨nat_lit 0xA785, nat_lit 0xA785⟩,
     ⟨nat_lit 0xA787, nat_lit 0xA787⟩, ⟨nat_lit 0xA78C, nat_lit 0xA78C⟩,
     ⟨nat_lit 0xA78E, nat_lit 0xA78E⟩, ⟨nat_lit 0xA791, nat_lit 0xA791⟩,
     ⟨nat_lit 0xA793, nat_lit 0xA795⟩, ⟨nat_lit 0xA797, nat_lit 0xA797⟩,
     ⟨nat_lit 0xA799, nat_lit 0xA799⟩, ⟨nat_lit 0xA79B, nat_lit 0xA79B⟩,
     ⟨nat_lit 0xA79D, nat_lit 0xA79D⟩, ⟨nat_lit 0xA79F, nat_lit 0xA79F⟩,
     ⟨nat_lit 0xA7A1, nat_lit 0xA7A1⟩, ⟨nat_lit 0xA7A3, nat_lit 0xA7A3⟩,
     ⟨nat_lit 0xA7A5, nat_lit 0xA7A5⟩, ⟨nat_lit 0xA7A7, nat_lit 0xA7A7⟩,
     ⟨nat_lit 0xA7A9, nat_lit 0xA7A9⟩, ⟨nat_lit 0xA7AF, nat_lit 0xA7AF⟩,
     ⟨nat_lit 0xA7B5, nat_lit 0xA7B5⟩, ⟨nat_lit 0xA7B7, nat_lit 0xA7B7⟩,
     ⟨nat_lit 0xA7B9, nat_lit 0xA7B9⟩, ⟨nat_lit 0xA7BB, nat_lit 0xA7BB⟩,
     ⟨nat_lit 0xA7BD, nat_lit 0xA7BD⟩, ⟨nat_lit 0xA7BF, nat_lit 0xA7BF⟩,
     ⟨nat_lit 0xA7C1, nat_lit 0xA7C1⟩, ⟨nat_lit 0xA7C3, nat_lit 0xA7C3⟩,
     ⟨nat_lit 0xA7C8, nat_lit 0xA7C8⟩, ⟨nat_lit 0xA7CA, nat_lit 0xA7CA⟩,
     ⟨nat_lit 0xA7CD, nat_lit 0xA7CD⟩, ⟨nat_lit 0xA7D1, nat_lit 0xA7D1⟩,
     ⟨nat_lit 0xA7D3, nat_lit 0xA7D3⟩, ⟨nat_lit 0xA7D5, nat_lit 0xA7D5⟩,
     ⟨nat_lit 0xA7D7, nat_lit 0xA7D7⟩, ⟨nat_lit 0xA7D9, nat_lit 0xA7D9⟩,
     ⟨nat_lit 0xA7DB, nat_lit 0xA7DB⟩, ⟨nat_lit 0xA7F2, nat_lit 0xA7F4⟩,
     ⟨nat_lit 0xA7F6, nat_lit 0xA7F6⟩, ⟨nat_lit 0xA7F8, nat_lit 0xA7FA⟩,
     ⟨nat_lit 0xAB30, nat_lit 0xAB5A⟩, ⟨nat_lit 0xAB5C, nat_lit 0xAB69⟩,
     ⟨nat_lit 0xAB70, nat_lit 0xABBF⟩, ⟨nat_lit 0xFB00, nat_lit 0xFB06⟩,
     ⟨nat_lit 0xFB13, nat_lit 0xFB17⟩, ⟨nat_lit 0xFF41, nat_lit 0xFF5A⟩,
     ⟨nat_lit 0x10428, nat_lit 0x1044F⟩, ⟨nat_lit 0x104D8, nat_lit 0x104FB⟩,
     ⟨nat_lit 0x10597, nat_lit 0x105A1⟩, ⟨nat_lit 0x105A3, nat_lit 0x105B1⟩,
     ⟨nat_lit 0x105B3, nat_lit 0x105B9⟩, ⟨nat_lit 0x105BB, nat_lit 0x105BC⟩,
     ⟨nat_lit 0x10780, nat_lit 0x10780⟩, ⟨nat_lit 0x10783, nat_lit 0x10785⟩,
     ⟨nat_lit 0x10787, nat_lit 0x107B0⟩, ⟨nat_lit 0x107B2, nat_lit 0x107BA⟩,
     ⟨nat_lit 0x10CC0, nat_lit 0x10CF2⟩, ⟨nat_lit 0x10D70, nat_lit 0x10D85⟩,
     ⟨nat_lit 0x118C0, nat_lit 0x118DF⟩, ⟨nat_lit 0x16E60, nat_lit 0x16E7F⟩,
     ⟨nat_lit 0x1D41A, nat_lit 0x1D433⟩, ⟨nat_lit 0x1D44E, nat_lit 0x1D454⟩,
     ⟨nat_lit 0x1D456, nat_lit 0x1D467⟩, ⟨nat_lit 0x1D482, nat_lit 0x1D49B⟩,
     ⟨nat_lit 0x1D4B6, nat_lit 0x1D4B9⟩, ⟨nat_lit 0x1D4BB, nat_lit 0x1D4BB⟩,
     ⟨nat_lit 0x1D4BD, nat_lit 0x1D4C3⟩, ⟨nat_lit 0x1D4C5, nat_lit 0x1D4CF⟩,
     ⟨nat_lit 0x1D4EA, nat_lit 0x1D503⟩, ⟨nat_lit 0x1D51E, nat_lit 0x1D537⟩,
     ⟨nat_lit 0x1D552, nat_lit 0x1D56B⟩, ⟨nat_lit 0x1D586, nat_lit 0x1D59F⟩,
     ⟨nat_lit 0x1D5BA, nat_lit 0x1D5D3⟩, ⟨nat_lit 0x1D5EE, nat_lit 0x1D607⟩,
     ⟨nat_lit 0x1D622, nat_lit 0x1D63B⟩, ⟨nat_lit 0x1D656, nat_lit 0x1D66F⟩,
     ⟨nat_lit 0x1D68A, nat_lit 0x1D6A5⟩, ⟨nat_lit 0x1D6C2, nat_lit 0x1D6DA⟩,
     ⟨nat_lit 0x1D6DC, nat_lit 0x1D6E1⟩, ⟨nat_lit 0x1D6FC, nat_lit 0x1D714⟩,
     ⟨nat_lit 0x1D716, nat_lit 0x1D71B⟩, ⟨nat_lit 0x1D736, nat_lit 0x1D74E⟩,
     ⟨nat_lit 0x1D750, nat_lit 0x1D755⟩, ⟨nat_lit 0x1D770, nat_lit 0x1D788⟩,
     ⟨nat_lit 0x1D78A, nat_lit 0x1D78F⟩, ⟨nat_lit 0x1D7AA, nat_lit 0x1D7C2⟩,
     ⟨nat_lit 0x1D7C4, nat_lit 0x1D7C9⟩, ⟨nat_lit 0x1D7CB, nat_lit 0x1D7CB⟩,
     ⟨nat_lit 0x1DF00, nat_lit 0x1DF09⟩, ⟨nat_lit 0x1DF0B, nat_lit 0x1DF1E⟩,
     ⟨nat_lit 0x1DF25, nat_lit 0x1DF2A⟩, ⟨nat_lit 0x1E030, nat_lit 0x1E06D⟩,
     ⟨nat_lit 0x1E922, nat_lit 0x1E943⟩]),
  ("Uppercase",
    [⟨nat_lit 0x41, nat_lit 0x5A⟩, ⟨nat_lit 0xC0, nat_lit 0xD6⟩, ⟨nat_lit 0xD8, nat_lit 0xDE⟩,
     ⟨nat_lit 0x100, nat_lit 0x100⟩, ⟨nat_lit 0x102, nat_lit 0x102⟩,
     ⟨nat_lit 0x104, nat_lit 0x104⟩, ⟨nat_lit 0x106, nat_lit 0x106⟩,
     ⟨nat_lit 0x108, nat_lit 0x108⟩, ⟨nat_lit 0x10A, nat_lit 0x10A⟩,
     ⟨nat_lit 0x10C, nat_lit 0x10C⟩, ⟨nat_lit 0x10E, nat_lit 0x10E⟩,
     ⟨nat_lit 0x110, nat_lit 0x110⟩, ⟨nat_lit 0x112, nat_lit 0x112⟩,
     ⟨nat_lit 0x114, nat_lit 0x114⟩, ⟨nat_lit 0x116, nat_lit 0x116⟩,
     ⟨nat_lit 0x118, nat_lit 0x118⟩, ⟨nat_lit 0x11A, nat_lit 0x11A⟩,
     ⟨nat_lit 0x11C, nat_lit 0x11C⟩, ⟨nat_lit 0x11E, nat_lit 0x11E⟩,
     ⟨nat_lit 0x120, nat_lit 0x120⟩, ⟨nat_lit 0x122, nat_lit 0x122⟩,
     ⟨nat_lit 0x124, nat_lit 0x124⟩, ⟨nat_lit 0x126, nat_lit 0x126⟩,
     ⟨nat_lit 0x128, nat_lit 0x128⟩, ⟨nat_lit 0x12A, nat_lit 0x12A⟩,
     ⟨nat_lit 0x12C, nat_lit 0x12C⟩, ⟨nat_lit 0x12E, nat_lit 0x12E⟩,
     ⟨nat_lit 0x130, nat_lit 0x130⟩, ⟨nat_lit 0x132, nat_lit 0x132⟩,
     ⟨nat_lit 0x134, nat_lit 0x134⟩, ⟨nat_lit 0x136, nat_lit 0x136⟩,
     ⟨nat_lit 0x139, nat_lit 0x139⟩, ⟨nat_lit 0x13B, nat_lit 0x13B⟩,
     ⟨nat_lit 0x13D, nat_lit 0x13D⟩, ⟨nat_lit 0x13F, nat_lit 0x13F⟩,
     ⟨nat_lit 0x141, nat_lit 0x141⟩, ⟨nat_lit 0x143, nat_lit 0x143⟩,
     ⟨nat_lit 0x145, nat_lit 0x145⟩, ⟨nat_lit 0x147, nat_lit 0x147⟩,
     ⟨nat_lit 0x14A, nat_lit 0x14A⟩, ⟨nat_lit 0x14C, nat_lit 0x14C⟩,
     ⟨nat_lit 0x14E, nat_lit 0x14E⟩, ⟨nat_lit 0x150, nat_lit 0x150⟩,
     ⟨nat_lit 0x152, nat_lit 0x152⟩, ⟨nat_lit 0x154, nat_lit 0x154⟩,
     ⟨nat_lit 0x156, nat_lit 0x156⟩, ⟨nat_lit 0x158, nat_lit 0x158⟩,
     ⟨nat_lit 0x15A, nat_lit 0x15A⟩, ⟨nat_lit 0x15C, nat_lit 0x15C⟩,
     ⟨nat_lit 0x15E, nat_lit 0x15E⟩, ⟨nat_lit 0x160, nat_lit 0x160⟩,
     ⟨nat_lit 0x162, nat_lit 0x162⟩, ⟨nat_lit 0x164, nat_lit 0x164⟩,
     ⟨nat_lit 0x166, nat_lit 0x166⟩, ⟨nat_lit 0x168, nat_lit 0x168⟩,
     ⟨nat_lit 0x16A, nat_lit 0x16A⟩, ⟨nat_lit 0x16C, nat_lit 0x16C⟩,
     ⟨nat_lit 0x16E, nat_lit 0x16E⟩, ⟨nat_lit 0x170, nat_lit 0x170⟩,
     ⟨nat_lit 0x172, nat_lit 0x172⟩, ⟨nat_lit 0x174, nat_lit 0x174⟩,
     ⟨nat_lit 0x176, nat_lit 0x176⟩, ⟨nat_lit 0x178, nat_lit 0x179⟩,
     ⟨nat_lit 0x17B, nat_lit 0x17B⟩, ⟨nat_lit 0x17D, nat_lit 0x17D⟩,
     ⟨nat_lit 0x181, nat_lit 0x182⟩, ⟨nat_lit 0x184, nat_lit 0x184⟩,
     ⟨nat_lit 0x186, nat_lit 0x187⟩, ⟨nat_lit 0x189, nat_lit 0x18B⟩,
     ⟨nat_lit 0x18E, nat_lit 0x191⟩, ⟨nat_lit 0x193, nat_lit 0x194⟩,
     ⟨nat_lit 0x196, nat_lit 0x198⟩, ⟨nat_lit 0x19C, nat_lit 0x19D⟩,
     ⟨nat_lit 0x19F, nat_lit 0x1A0⟩, ⟨nat_lit 0x1A2, nat_lit 0x1A2⟩,
     ⟨nat_lit 0x1A4, nat_lit 0x1A4⟩, ⟨nat_lit 0x1A6, nat_lit 0x1A7⟩,
     ⟨nat_lit 0x1A9, nat_lit 0x1A9⟩, ⟨nat_lit 0x1AC, nat_lit 0x1AC⟩,
     ⟨nat_lit 0x1AE, nat_lit 0x1AF⟩, ⟨nat_lit 0x1B1, nat_lit 0x1B3⟩,
     ⟨nat_lit 0x1B5, nat_lit 0x1B5⟩, ⟨nat_lit 0x1B7, nat_lit 0x1B8⟩,
     ⟨nat_lit 0x1BC, nat_lit 0x1BC⟩, ⟨nat_lit 0x1C4, nat_lit 0x1C4⟩,
     ⟨nat_lit 0x1C7, nat_lit 0x1C7⟩, ⟨nat_lit 0x1CA, nat_lit 0x1CA⟩,
     ⟨nat_lit 0x1CD, nat_lit 0x1CD⟩, ⟨nat_lit 0x1CF, nat_lit 0x1CF⟩,
     ⟨nat_lit 0x1D1, nat_lit 0x1D1⟩, ⟨nat_lit 0x1D3, nat_lit 0x1D3⟩,
     ⟨nat_lit 0x1D5, nat_lit 0x1D5⟩, ⟨nat_lit 0x1D7, nat_lit 0x1D7⟩,
     ⟨nat_lit 0x1D9, nat_lit 0x1D9⟩, ⟨nat_lit 0x1DB, nat_lit 0x1DB⟩,
     ⟨nat_lit 0x1DE, nat_lit 0x1DE⟩, ⟨nat_lit 0x1E0, nat_lit 0x1E0⟩,
     ⟨nat_lit 0x1E2, nat_lit 0x1E2⟩, ⟨nat_lit 0x1E4, nat_lit 0x1E4⟩,
     ⟨nat_lit 0x1E6, nat_lit 0x1E6⟩, ⟨nat_lit 0x1E8, nat_lit 0x1E8⟩,
     ⟨nat_lit 0x1EA, nat_lit 0x1EA⟩, ⟨nat_lit 0x1EC, nat_lit 0x1EC⟩,
     ⟨nat_lit 0x1EE, nat_lit 0x1EE⟩, ⟨nat_lit 0x1F1, nat_lit 0x1F1⟩,
     ⟨nat_lit 0x1F4, nat_lit 0x1F4⟩, ⟨nat_lit 0x1F6, nat_lit 0x1F8⟩,
     ⟨nat_lit 0x1FA, nat_lit 0x1FA⟩, ⟨nat_lit 0x1FC, nat_lit 0x1FC⟩,
     ⟨nat_lit 0x1FE, nat_lit 0x1FE⟩, ⟨nat_lit 0x200, nat_lit 0x200⟩,
     ⟨nat_lit 0x202, nat_lit 0x202⟩, ⟨nat_lit 0x204, nat_lit 0x204⟩,
     ⟨nat_lit 0x206, nat_lit 0x206⟩, ⟨nat_lit 0x208, nat_lit 0x208⟩,
     ⟨nat_lit 0x20A, nat_lit 0x20A⟩, ⟨nat_lit 0x20C, nat_lit 0x20C⟩,
     ⟨nat_lit 0x20E, nat_lit 0x20E⟩, ⟨nat_lit 0x210, nat_lit 0x210⟩,
     ⟨nat_lit 0x212, nat_lit 0x212⟩, ⟨nat_lit 0x214, nat_lit 0x214⟩,
     ⟨nat_lit 0x216, nat_lit 0x216⟩, ⟨nat_lit 0x218, nat_lit 0x218⟩,
     ⟨nat_lit 0x21A, nat_lit 0x21A⟩, ⟨nat_lit 0x21C, nat_lit 0x21C⟩,
     ⟨nat_lit 0x21E, nat_lit 0x21E⟩, ⟨nat_lit 0x220, nat_lit 0x220⟩,
     ⟨nat_lit 0x222, nat_lit 0x222⟩, ⟨nat_lit 0x224, nat_lit 0x224⟩,
     ⟨nat_lit 0x226, nat_lit 0x226⟩, ⟨nat_lit 0x228, nat_lit 0x228⟩,
     ⟨nat_lit 0x22A, nat_lit 0x22A⟩, ⟨nat_lit 0x22C, nat_lit 0x22C⟩,
     ⟨nat_lit 0x22E, nat_lit 0x22E⟩, ⟨nat_lit 0x230, nat_lit 0x230⟩,
     ⟨nat_lit 0x232, nat_lit 0x232⟩, ⟨nat_lit 0x23A, nat_lit 0x23B⟩,
     ⟨nat_lit 0x23D, nat_lit 0x23E⟩, ⟨nat_lit 0x241, nat_lit 0x241⟩,
     ⟨nat_lit 0x243, nat_lit 0x246⟩, ⟨nat_lit 0x248, nat_lit 0x248⟩,
     ⟨nat_lit 0x24A, nat_lit 0x24A⟩, ⟨nat_lit 0x24C, nat_lit 0x24C⟩,
     ⟨nat_lit 0x24E, nat_lit 0x24E⟩, ⟨nat_lit 0x370, nat_lit 0x370⟩,
     ⟨nat_lit 0x372, nat_lit 0x372⟩, ⟨nat_lit 0x376, nat_lit 0x376⟩,
     ⟨nat_lit 0x37F, nat_lit 0x37F⟩, ⟨nat_lit 0x386, nat_lit 0x386⟩,
     ⟨nat_lit 0x388, nat_lit 0x38A⟩, ⟨nat_lit 0x38C, nat_lit 0x38C⟩,
     ⟨nat_lit 0x38E, nat_lit 0x38F⟩, ⟨nat_lit 0x391, nat_lit 0x3A1⟩,
     ⟨nat_lit 0x3A3, nat_lit 0x3AB⟩, ⟨nat_lit 0x3CF, nat_lit 0x3CF⟩,
     ⟨nat_lit 0x3D2, nat_lit 0x3D4⟩, ⟨nat_lit 0x3D8, nat_lit 0x3D8⟩,
     ⟨nat_lit 0x3DA, nat_lit 0x3DA⟩, ⟨nat_lit 0x3DC, nat_lit 0x3DC⟩,
     ⟨nat_lit 0x3DE, nat_lit 0x3DE⟩, ⟨nat_lit 0x3E0, nat_lit 0x3E0⟩,
     ⟨nat_lit 0x3E2, nat_lit 0x3E2⟩, ⟨nat_lit 0x3E4, nat_lit 0x3E4⟩,
     ⟨nat_lit 0x3E6, nat_lit 0x3E6⟩, ⟨nat_lit 0x3E8, nat_lit 0x3E8⟩,
     ⟨nat_lit 0x3EA, nat_lit 0x3EA⟩, ⟨nat_lit 0x3EC, nat_lit 0x3EC⟩,
     ⟨nat_lit 0x3EE, nat_lit 0x3EE⟩, ⟨nat_lit 0x3F4, nat_lit 0x3F4⟩,
     ⟨nat_lit 0x3F7, nat_lit 0x3F7⟩, ⟨nat_lit 0x3F9, nat_lit 0x3FA⟩,
     ⟨nat_lit 0x3FD, nat_lit 0x42F⟩, ⟨nat_lit 0x460, nat_lit 0x460⟩,
     ⟨nat_lit 0x462, nat_lit 0x462⟩, ⟨nat_lit 0x464, nat_lit 0x464⟩,
     ⟨nat_lit 0x466, nat_lit 0x466⟩, ⟨nat_lit 0x468, nat_lit 0x468⟩,
     ⟨nat_lit 0x46A, nat_lit 0x46A⟩, ⟨nat_lit 0x46C, nat_lit 0x46C⟩,
     ⟨nat_lit 0x46E, nat_lit 0x46E⟩, ⟨nat_lit 0x470, nat_lit 0x470⟩,
     ⟨nat_lit 0x472, nat_lit 0x472⟩, ⟨nat_lit 0x474, nat_lit 0x474⟩,
     ⟨nat_lit 0x476, nat_lit 0x476⟩, ⟨nat_lit 0x478, nat_lit 0x478⟩,
     ⟨nat_lit 0x47A, nat_lit 0x47A⟩, ⟨nat_lit 0x47C, nat_lit 0x47C⟩,
     ⟨nat_lit 0x47E, nat_lit 0x47E⟩, ⟨nat_lit 0x480, nat_lit 0x480⟩,
     ⟨nat_lit 0x48A, nat_lit 0x48A⟩, ⟨nat_lit 0x48C, nat_lit 0x48C⟩,
     ⟨nat_lit 0x48E, nat_lit 0x48E⟩, ⟨nat_lit 0x490, nat_lit 0x490⟩,
     ⟨nat_lit 0x492, nat_lit 0x492⟩, ⟨nat_lit 0x494, nat_lit 0x494⟩,
     ⟨nat_lit 0x496, nat_lit 0x496⟩, ⟨nat_lit 0x498, nat_lit 0x498⟩,
     ⟨nat_lit 0x49A, nat_lit 0x49A⟩, ⟨nat_lit 0x49C, nat_lit 0x49C⟩,
     ⟨nat_lit 0x49E, nat_lit 0x49E⟩, ⟨nat_lit 0x4A0, nat_lit 0x4A0⟩,
     ⟨nat_lit 0x4A2, nat_lit 0x4A2⟩, ⟨nat_lit 0x4A4, nat_lit 0x4A4⟩,
     ⟨nat_lit 0x4A6, nat_lit 0x4A6⟩, ⟨nat_lit 0x4A8, nat_lit 0x4A8⟩,
     ⟨nat_lit 0x4AA, nat_lit 0x4AA⟩, ⟨nat_lit 0x4AC, nat_lit 0x4AC⟩,
     ⟨nat_lit 0x4AE, nat_lit 0x4AE⟩, ⟨nat_lit 0x4B0, nat_lit 0x4B0⟩,
     ⟨nat_lit 0x4B2, nat_lit 0x4B2⟩, ⟨nat_lit 0x4B4, nat_lit 0x4B4⟩,
     ⟨nat_lit 0x4B6, nat_lit 0x4B6⟩, ⟨nat_lit 0x4B8, nat_lit 0x4B8⟩,
     ⟨nat_lit 0x4BA, nat_lit 0x4BA⟩, ⟨nat_lit 0x4BC, nat_lit 0x4BC⟩,
     ⟨nat_lit 0x4BE, nat_lit 0x4BE⟩, ⟨nat_lit 0x4C0, nat_lit 0x4C1⟩,
     ⟨nat_lit 0x4C3, nat_lit 0x4C3⟩, ⟨nat_lit 0x4C5, nat_lit 0x4C5⟩,
     ⟨nat_lit 0x4C7, nat_lit 0x4C7⟩, ⟨nat_lit 0x4C9, nat_lit 0x4C9⟩,
     ⟨nat_lit 0x4CB, nat_lit 0x4CB⟩, ⟨nat_lit 0x4CD, nat_lit 0x4CD⟩,
     ⟨nat_lit 0x4D0, nat_lit 0x4D0⟩, ⟨nat_lit 0x4D2, nat_lit 0x4D2⟩,
     ⟨nat_lit 0x4D4, nat_lit 0x4D4⟩, ⟨nat_lit 0x4D6, nat_lit 0x4D6⟩,
     ⟨nat_lit 0x4D8, nat_lit 0x4D8⟩, ⟨nat_lit 0x4DA, nat_lit 0x4DA⟩,
     ⟨nat_lit 0x4DC, nat_lit 0x4DC⟩, ⟨nat_lit 0x4DE, nat_lit 0x4DE⟩,
     ⟨nat_lit 0x4E0, nat_lit 0x4E0⟩, ⟨nat_lit 0x4E2, nat_lit 0x4E2⟩,
     ⟨nat_lit 0x4E4, nat_lit 0x4E4⟩, ⟨nat_lit 0x4E6, nat_lit 0x4E6⟩,
     ⟨nat_lit 0x4E8, nat_lit 0x4E8⟩, ⟨nat_lit 0x4EA, nat_lit 0x4EA⟩,
     ⟨nat_lit 0x4EC, nat_lit 0x4EC⟩, ⟨nat_lit 0x4EE, nat_lit 0x4EE⟩,
     ⟨nat_lit 0x4F0, nat_lit 0x4F0⟩, ⟨nat_lit 0x4F2, nat_lit 0x4F2⟩,
     ⟨nat_lit 0x4F4, nat_lit 0x4F4⟩, ⟨nat_lit 0x4F6, nat_lit 0x4F6⟩,
     ⟨nat_lit 0x4F8, nat_lit 0x4F8⟩, ⟨nat_lit 0x4FA, nat_lit 0x4FA⟩,
     ⟨nat_lit 0x4FC, nat_lit 0x4FC⟩, ⟨nat_lit 0x4FE, nat_lit 0x4FE⟩,
     ⟨nat_lit 0x500, nat_lit 0x500⟩, ⟨nat_lit 0x502, nat_lit 0x502⟩,
     ⟨nat_lit 0x504, nat_lit 0x504⟩, ⟨nat_lit 0x506, nat_lit 0x506⟩,
     ⟨nat_lit 0x508, nat_lit 0x508⟩, ⟨nat_lit 0x50A, nat_lit 0x50A⟩,
     ⟨nat_lit 0x50C, nat_lit 0x50C⟩, ⟨nat_lit 0x50E, nat_lit 0x50E⟩,
     ⟨nat_lit 0x510, nat_lit 0x510⟩, ⟨nat_lit 0x512, nat_lit 0x512⟩,
     ⟨nat_lit 0x514, nat_lit 0x514⟩, ⟨nat_lit 0x516, nat_lit 0x516⟩,
     ⟨nat_lit 0x518, nat_lit 0x518⟩, ⟨nat_lit 0x51A, nat_lit 0x51A⟩,
     ⟨nat_lit 0x51C, nat_lit 0x51C⟩, ⟨nat_lit 0x51E, nat_lit 0x51E⟩,
     ⟨nat_lit 0x520, nat_lit 0x520⟩, ⟨nat_lit 0x522, nat_lit 0x522⟩,
     ⟨nat_lit 0x524, nat_lit 0x524⟩, ⟨nat_lit 0x526, nat_lit 0x526⟩,
     ⟨nat_lit 0x528, nat_lit 0x528⟩, ⟨nat_lit 0x52A, nat_lit 0x52A⟩,
     ⟨nat_lit 0x52C, nat_lit 0x52C⟩, ⟨nat_lit 0x52E, nat_lit 0x52E⟩,
     ⟨nat_lit 0x531, nat_lit 0x556⟩, ⟨nat_lit 0x10A0, nat_lit 0x10C5⟩,
     ⟨nat_lit 0x10C7, nat_lit 0x10C7⟩, ⟨nat_lit 0x10CD, nat_lit 0x10CD⟩,
     ⟨nat_lit 0x13A0, nat_lit 0x13F5⟩, ⟨nat_lit 0x1C89, nat_lit 0x1C89⟩,
     ⟨nat_lit 0x1C90, nat_lit 0x1CBA⟩, ⟨nat_lit 0x1CBD, nat_lit 0x1CBF⟩,
     ⟨nat_lit 0x1E00, nat_lit 0x1E00⟩, ⟨nat_lit 0x1E02, nat_lit 0x1E02⟩,
     ⟨nat_lit 0x1E04, nat_lit 0x1E04⟩, ⟨nat_lit 0x1E06, nat_lit 0x1E06⟩,
     ⟨nat_lit 0x1E08, nat_lit 0x1E08⟩, ⟨nat_lit 0x1E0A, nat_lit 0x1E0A⟩,
     ⟨nat_lit 0x1E0C, nat_lit 0x1E0C⟩, ⟨nat_lit 0x1E0E, nat_lit 0x1E0E⟩,
     ⟨nat_lit 0x1E10, nat_lit 0x1E10⟩, ⟨nat_lit 0x1E12, nat_lit 0x1E12⟩,
     ⟨nat_lit 0x1E14, nat_lit 0x1E14⟩, ⟨nat_lit 0x1E16, nat_lit 0x1E16⟩,
     ⟨nat_lit 0x1E18, nat_lit 0x1E18⟩, ⟨nat_lit 0x1E1A, nat_lit 0x1E1A⟩,
     ⟨nat_lit 0x1E1C, nat_lit 0x1E1C⟩, ⟨nat_lit 0x1E1E, nat_lit 0x1E1E⟩,
     ⟨nat_lit 0x1E20, nat_lit 0x1E20⟩, ⟨nat_lit 0x1E22, nat_lit 0x1E22⟩,
     ⟨nat_lit 0x1E24, nat_lit 0x1E24⟩, ⟨nat_lit 0x1E26, nat_lit 0x1E26⟩,
     ⟨nat_lit 0x1E28, nat_lit 0x1E28⟩, ⟨nat_lit 0x1E2A, nat_lit 0x1E2A⟩,
     ⟨nat_lit 0x1E2C, nat_lit 0x1E2C⟩, ⟨nat_lit 0x1E2E, nat_lit 0x1E2E⟩,
     ⟨nat_lit 0x1E30, nat_lit 0x1E30⟩, ⟨nat_lit 0x1E32, nat_lit 0x1E32⟩,
     ⟨nat_lit 0x1E34, nat_lit 0x1E34⟩, ⟨nat_lit 0x1E36, nat_lit 0x1E36⟩,
     ⟨nat_lit 0x1E38, nat_lit 0x1E38⟩, ⟨nat_lit 0x1E3A, nat_lit 0x1E3A⟩,
     ⟨nat_lit 0x1E3C, nat_lit 0x1E3C⟩, ⟨nat_lit 0x1E3E, nat_lit 0x1E3E⟩,
     ⟨nat_lit 0x1E40, nat_lit 0x1E40⟩, ⟨nat_lit 0x1E42, nat_lit 0x1E42⟩,
     ⟨nat_lit 0x1E44, nat_lit 0x1E44⟩, ⟨nat_lit 0x1E46, nat_lit 0x1E46⟩,
     ⟨nat_lit 0x1E48, nat_lit 0x1E48⟩, ⟨nat_lit 0x1E4A, nat_lit 0x1E4A⟩,
     ⟨nat_lit 0x1E4C, nat_lit 0x1E4C⟩, ⟨nat_lit 0x1E4E, nat_lit 0x1E4E⟩,
     ⟨nat_lit 0x1E50, nat_lit 0x1E50⟩, ⟨nat_lit 0x1E52, nat_lit 0x1E52⟩,
     ⟨nat_lit 0x1E54, nat_lit 0x1E54⟩, ⟨nat_lit 0x1E56, nat_lit 0x1E56⟩,
     ⟨nat_lit 0x1E58, nat_lit 0x1E58⟩, ⟨nat_lit 0x1E5A, nat_lit 0x1E5A⟩,
     ⟨nat_lit 0x1E5C, nat_lit 0x1E5C⟩, ⟨nat_lit 0x1E5E, nat_lit 0x1E5E⟩,
     ⟨nat_lit 0x1E60, nat_lit 0x1E60⟩, ⟨nat_lit 0x1E62, nat_lit 0x1E62⟩,
     ⟨nat_lit 0x1E64, nat_lit 0x1E64⟩, ⟨nat_lit 0x1E66, nat_lit 0x1E66⟩,
     ⟨nat_lit 0x1E68, nat_lit 0x1E68⟩, ⟨nat_lit 0x1E6A, nat_lit 0x1E6A⟩,
     ⟨nat_lit 0x1E6C, nat_lit 0x1E6C⟩, ⟨nat_lit 0x1E6E, nat_lit 0x1E6E⟩,
     ⟨nat_lit 0x1E70, nat_lit 0x1E70⟩, ⟨nat_lit 0x1E72, nat_lit 0x1E72⟩,
     ⟨nat_lit 0x1E74, nat_lit 0x1E74⟩, ⟨nat_lit 0x1E76, nat_lit 0x1E76⟩,
     ⟨nat_lit 0x1E78, nat_lit 0x1E78⟩, ⟨nat_lit 0x1E7A, nat_lit 0x1E7A⟩,
     ⟨nat_lit 0x1E7C, nat_lit 0x1E7C⟩, ⟨nat_lit 0x1E7E, nat_lit 0x1E7E⟩,
     ⟨nat_lit 0x1E80, nat_lit 0x1E80⟩, ⟨nat_lit 0x1E82, nat_lit 0x1E82⟩,
     ⟨nat_lit 0x1E84, nat_lit 0x1E84⟩, ⟨nat_lit 0x1E86, nat_lit 0x1E86⟩,
     ⟨nat_lit 0x1E88, nat_lit 0x1E88⟩, ⟨nat_lit 0x1E8A, nat_lit 0x1E8A⟩,
     ⟨nat_lit 0x1E8C, nat_lit 0x1E8C⟩, ⟨nat_lit 0x1E8E, nat_lit 0x1E8E⟩,
     ⟨nat_lit 0x1E90, nat_lit 0x1E90⟩, ⟨nat_lit 0x1E92, nat_lit 0x1E92⟩,
     ⟨nat_lit 0x1E94, nat_lit 0x1E94⟩, ⟨nat_lit 0x1E9E, nat_lit 0x1E9E⟩,
     ⟨nat_lit 0x1EA0, nat_lit 0x1EA0⟩, ⟨nat_lit 0x1EA2, nat_lit 0x1EA2⟩,
     ⟨nat_lit 0x1EA4, nat_lit 0x1EA4⟩, ⟨nat_lit 0x1EA6, nat_lit 0x1EA6⟩,
     ⟨nat_lit 0x1EA8, nat_lit 0x1EA8⟩, ⟨nat_lit 0x1EAA, nat_lit 0x1EAA⟩,
     ⟨nat_lit 0x1EAC, nat_lit 0x1EAC⟩, ⟨nat_lit 0x1EAE, nat_lit 0x1EAE⟩,
     ⟨nat_lit 0x1EB0, nat_lit 0x1EB0⟩, ⟨nat_lit 0x1EB2, nat_lit 0x1EB2⟩,
     ⟨nat_lit 0x1EB4, nat_lit 0x1EB4⟩, ⟨nat_lit 0x1EB6, nat_lit 0x1EB6⟩,
     ⟨nat_lit 0x1EB8, nat_lit 0x1EB8⟩, ⟨nat_lit 0x1EBA, nat_lit 0x1EBA⟩,
     ⟨nat_lit 0x1EBC, nat_lit 0x1EBC⟩, ⟨nat_lit 0x1EBE, nat_lit 0x1EBE⟩,
     ⟨nat_lit 0x1EC0, nat_lit 0x1EC0⟩, ⟨nat_lit 0x1EC2, nat_lit 0x1EC2⟩,
     ⟨nat_lit 0x1EC4, nat_lit 0x1EC4⟩, ⟨nat_lit 0x1EC6, nat_lit 0x1EC6⟩,
     ⟨nat_lit 0x1EC8, nat_lit 0x1EC8⟩, ⟨nat_lit 0x1ECA, nat_lit 0x1ECA⟩,
     ⟨nat_lit 0x1ECC, nat_lit 0x1ECC⟩, ⟨nat_lit 0x1ECE, nat_lit 0x1ECE⟩,
     ⟨nat_lit 0x1ED0, nat_lit 0x1ED0⟩, ⟨nat_lit 0x1ED2, nat_lit 0x1ED2⟩,
     ⟨nat_lit 0x1ED4, nat_lit 0x1ED4⟩, ⟨nat_lit 0x1ED6, nat_lit 0x1ED6⟩,
     ⟨nat_lit 0x1ED8, nat_lit 0x1ED8⟩, ⟨nat_lit 0x1EDA, nat_lit 0x1EDA⟩,
     ⟨nat_lit 0x1EDC, nat_lit 0x1EDC⟩, ⟨nat_lit 0x1EDE, nat_lit 0x1EDE⟩,
     ⟨nat_lit 0x1EE0, nat_lit 0x1EE0⟩, ⟨nat_lit 0x1EE2, nat_lit 0x1EE2⟩,
     ⟨nat_lit 0x1EE4, nat_lit 0x1EE4⟩, ⟨nat_lit 0x1EE6, nat_lit 0x1EE6⟩,
     ⟨nat_lit 0x1EE8, nat_lit 0x1EE8⟩, ⟨nat_lit 0x1EEA, nat_lit 0x1EEA⟩,
     ⟨nat_lit 0x1EEC, nat_lit 0x1EEC⟩, ⟨nat_lit 0x1EEE, nat_lit 0x1EEE⟩,
     ⟨nat_lit 0x1EF0, nat_lit 0x1EF0⟩, ⟨nat_lit 0x1EF2, nat_lit 0x1EF2⟩,
     ⟨nat_lit 0x1EF4, nat_lit 0x1EF4⟩, ⟨nat_lit 0x1EF6, nat_lit 0x1EF6⟩,
     ⟨nat_lit 0x1EF8, nat_lit 0x1EF8⟩, ⟨nat_lit 0x1EFA, nat_lit 0x1EFA⟩,
     ⟨nat_lit 0x1EFC, nat_lit 0x1EFC⟩, ⟨nat_lit 0x1EFE, nat_lit 0x1EFE⟩,
     ⟨nat_lit 0x1F08, nat_lit 0x1F0F⟩, ⟨nat_lit 0x1F18, nat_lit 0x1F1D⟩,
     ⟨nat_lit 0x1F28, nat_lit 0x1F2F⟩, ⟨nat_lit 0x1F38, nat_lit 0x1F3F⟩,
     ⟨nat_lit 0x1F48, nat_lit 0x1F4D⟩, ⟨nat_lit 0x1F59, nat_lit 0x1F59⟩,
     ⟨nat_lit 0x1F5B, nat_lit 0x1F5B⟩, ⟨nat_lit 0x1F5D, nat_lit 0x1F5D⟩,
     ⟨nat_lit 0x1F5F, nat_lit 0x1F5F⟩, ⟨nat_lit 0x1F68, nat_lit 0x1F6F⟩,
     ⟨nat_lit 0x1FB8, nat_lit 0x1FBB⟩, ⟨nat_lit 0x1FC8, nat_lit 0x1FCB⟩,
     ⟨nat_lit 0x1FD8, nat_lit 0x1FDB⟩, ⟨nat_lit 0x1FE8, nat_lit 0x1FEC⟩,
     ⟨nat_lit 0x1FF8, nat_lit 0x1FFB⟩, ⟨nat_lit 0x2102, nat_lit 0x2102⟩,
     ⟨nat_lit 0x2107, nat_lit 0x2107⟩, ⟨nat_lit 0x210B, nat_lit 0x210D⟩,
     ⟨nat_lit 0x2110, nat_lit 0x2112⟩, ⟨nat_lit 0x2115, nat_lit 0x2115⟩,
     ⟨nat_lit 0x2119, nat_lit 0x211D⟩, ⟨nat_lit 0x2124, nat_lit 0x2124⟩,
     ⟨nat_lit 0x2126, nat_lit 0x2126⟩, ⟨nat_lit 0x2128, nat_lit 0x2128⟩,
     ⟨nat_lit 0x212A, nat_lit 0x212D⟩, ⟨nat_lit 0x2130, nat_lit 0x2133⟩,
     ⟨nat_lit 0x213E, nat_lit 0x213F⟩, ⟨nat_lit 0x2145, nat_lit 0x2145⟩,
     ⟨nat_lit 0x2160, nat_lit 0x216F⟩, ⟨nat_lit 0x2183, nat_lit 0x2183⟩,
     ⟨nat_lit 0x24B6, nat_lit 0x24CF⟩, ⟨nat_lit 0x2C00, nat_lit 0x2C2F⟩,
     ⟨nat_lit 0x2C60, nat_lit 0x2C60⟩, ⟨nat_lit 0x2C62, nat_lit 0x2C64⟩,
     ⟨nat_lit 0x2C67, nat_lit 0x2C67⟩, ⟨nat_lit 0x2C69, nat_lit 0x2C69⟩,
     ⟨nat_lit 0x2C6B, nat_lit 0x2C6B⟩, ⟨nat_lit 0x2C6D, nat_lit 0x2C70⟩,
     ⟨nat_lit 0x2C72, nat_lit 0x2C72⟩, ⟨nat_lit 0x2C75, nat_lit 0x2C75⟩,
     ⟨nat_lit 0x2C7E, nat_lit 0x2C80⟩, ⟨nat_lit 0x2C82, nat_lit 0x2C82⟩,
     ⟨nat_lit 0x2C84, nat_lit 0x2C84⟩, ⟨nat_lit 0x2C86, nat_lit 0x2C86⟩,
     ⟨nat_lit 0x2C88, nat_lit 0x2C88⟩, ⟨nat_lit 0x2C8A, nat_lit 0x2C8A⟩,
     ⟨nat_lit 0x2C8C, nat_lit 0x2C8C⟩, ⟨nat_lit 0x2C8E, nat_lit 0x2C8E⟩,
     ⟨nat_lit 0x2C90, nat_lit 0x2C90⟩, ⟨nat_lit 0x2C92, nat_lit 0x2C92⟩,
     ⟨nat_lit 0x2C94, nat_lit 0x2C94⟩, ⟨nat_lit 0x2C96, nat_lit 0x2C96⟩,
     ⟨nat_lit 0x2C98, nat_lit 0x2C98⟩, ⟨nat_lit 0x2C9A, nat_lit 0x2C9A⟩,
     ⟨nat_lit 0x2C9C, nat_lit 0x2C9C⟩, ⟨nat_lit 0x2C9E, nat_lit 0x2C9E⟩,
     ⟨nat_lit 0x2CA0, nat_lit 0x2CA0⟩, ⟨nat_lit 0x2CA2, nat_lit 0x2CA2⟩,
     ⟨nat_lit 0x2CA4, nat_lit 0x2CA4⟩, ⟨nat_lit 0x2CA6, nat_lit 0x2CA6⟩,
     ⟨nat_lit 0x2CA8, nat_lit 0x2CA8⟩, ⟨nat_lit 0x2CAA, nat_lit 0x2CAA⟩,
     ⟨nat_lit 0x2CAC, nat_lit 0x2CAC⟩, ⟨nat_lit 0x2CAE, nat_lit 0x2CAE⟩,
     ⟨nat_lit 0x2CB0, nat_lit 0x2CB0⟩, ⟨nat_lit 0x2CB2, nat_lit 0x2CB2⟩,
     ⟨nat_lit 0x2CB4, nat_lit 0x2CB4⟩, ⟨nat_lit 0x2CB6, nat_lit 0x2CB6⟩,
     ⟨nat_lit 0x2CB8, nat_lit 0x2CB8⟩, ⟨nat_lit 0x2CBA, nat_lit 0x2CBA⟩,
     ⟨nat_lit 0x2CBC, nat_lit 0x2CBC⟩, ⟨nat_lit 0x2CBE, nat_lit 0x2CBE⟩,
     ⟨nat_lit 0x2CC0, nat_lit 0x2CC0⟩, ⟨nat_lit 0x2CC2, nat_lit 0x2CC2⟩,
     ⟨nat_lit 0x2CC4, nat_lit 0x2CC4⟩, ⟨nat_lit 0x2CC6, nat_lit 0x2CC6⟩,
     ⟨nat_lit 0x2CC8, nat_lit 0x2CC8⟩, ⟨nat_lit 0x2CCA, nat_lit 0x2CCA⟩,
     ⟨nat_lit 0x2CCC, nat_lit 0x2CCC⟩, ⟨nat_lit 0x2CCE, nat_lit 0x2CCE⟩,
     ⟨nat_lit 0x2CD0, nat_lit 0x2CD0⟩, ⟨nat_lit 0x2CD2, nat_lit 0x2CD2⟩,
     ⟨nat_lit 0x2CD4, nat_lit 0x2CD4⟩, ⟨nat_lit 0x2CD6, nat_lit 0x2CD6⟩,
     ⟨nat_lit 0x2CD8, nat_lit 0x2CD8⟩, ⟨nat_lit 0x2CDA, nat_lit 0x2CDA⟩,
     ⟨nat_lit 0x2CDC, nat_lit 0x2CDC⟩, ⟨nat_lit 0x2CDE, nat_lit 0x2CDE⟩,
     ⟨nat_lit 0x2CE0, nat_lit 0x2CE0⟩, ⟨nat_lit 0x2CE2, nat_lit 0x2CE2⟩,
     ⟨nat_lit 0x2CEB, nat_lit 0x2CEB⟩, ⟨nat_lit 0x2CED, nat_lit 0x2CED⟩,
     ⟨nat_lit 0x2CF2, nat_lit 0x2CF2⟩, ⟨nat_lit 0xA640, nat_lit 0xA640⟩,
     ⟨nat_lit 0xA642, nat_lit 0xA642⟩, ⟨nat_lit 0xA644, nat_lit 0xA644⟩,
     ⟨nat_lit 0xA646, nat_lit 0xA646⟩, ⟨nat_lit 0xA648, nat_lit 0xA648⟩,
     ⟨nat_lit 0xA64A, nat_lit 0xA64A⟩, ⟨nat_lit 0xA64C, nat_lit 0xA64C⟩,
     ⟨nat_lit 0xA64E, nat_lit 0xA64E⟩, ⟨nat_lit 0xA650, nat_lit 0xA650⟩,
     ⟨nat_lit 0xA652, nat_lit 0xA652⟩, ⟨nat_lit 0xA654, nat_lit 0xA654⟩,
     ⟨nat_lit 0xA656, nat_lit 0xA656⟩, ⟨nat_lit 0xA658, nat_lit 0xA658⟩,
     ⟨nat_lit 0xA65A, nat_lit 0xA65A⟩, ⟨nat_lit 0xA65C, nat_lit 0xA65C⟩,
     ⟨nat_lit 0xA65E, nat_lit 0xA65E⟩, ⟨nat_lit 0xA660, nat_lit 0xA660⟩,
     ⟨nat_lit 0xA662, nat_lit 0xA662⟩, ⟨nat_lit 0xA664, nat_lit 0xA664⟩,
     ⟨nat_lit 0xA666, nat_lit 0xA666⟩, ⟨nat_lit 0xA668, nat_lit 0xA668⟩,
     ⟨nat_lit 0xA66A, nat_lit 0xA66A⟩, ⟨nat_lit 0xA66C, nat_lit 0xA66C⟩,
     ⟨nat_lit 0xA680, nat_lit 0xA680⟩, ⟨nat_lit 0xA682, nat_lit 0xA682⟩,
     ⟨nat_lit 0xA684, nat_lit 0xA684⟩, ⟨nat_lit 0xA686, nat_lit 0xA686⟩,
     ⟨nat_lit 0xA688, nat_lit 0xA688⟩, ⟨nat_lit 0xA68A, nat_lit 0xA68A⟩,
     ⟨nat_lit 0xA68C, nat_lit 0xA68C⟩, ⟨nat_lit 0xA68E, nat_lit 0xA68E⟩,
     ⟨nat_lit 0xA690, nat_lit 0xA690⟩, ⟨nat_lit 0xA692, nat_lit 0xA692⟩,
     ⟨nat_lit 0xA694, nat_lit 0xA694⟩, ⟨nat_lit 0xA696, nat_lit 0xA696⟩,
     ⟨nat_lit 0xA698, nat_lit 0xA698⟩, ⟨nat_lit 0xA69A, nat_lit 0xA69A⟩,
     ⟨nat_lit 0xA722, nat_lit 0xA722⟩, ⟨nat_lit 0xA724, nat_lit 0xA724⟩,
     ⟨nat_lit 0xA726, nat_lit 0xA726⟩, ⟨nat_lit 0xA728, nat_lit 0xA728⟩,
     ⟨nat_lit 0xA72A, nat_lit 0xA72A⟩, ⟨nat_lit 0xA72C, nat_lit 0xA72C⟩,
     ⟨nat_lit 0xA72E, nat_lit 0xA72E⟩, ⟨nat_lit 0xA732, nat_lit 0xA732⟩,
     ⟨nat_lit 0xA734, nat_lit 0xA734⟩, ⟨nat_lit 0xA736, nat_lit 0xA736⟩,
     ⟨nat_lit 0xA738, nat_lit 0xA738⟩, ⟨nat_lit 0xA73A, nat_lit 0xA73A⟩,
     ⟨nat_lit 0xA73C, nat_lit 0xA73C⟩, ⟨nat_lit 0xA73E, nat_lit 0xA73E⟩,
     ⟨nat_lit 0xA740, nat_lit 0xA740⟩, ⟨nat_lit 0xA742, nat_lit 0xA742⟩,
     ⟨nat_lit 0xA744, nat_lit 0xA744⟩, ⟨nat_lit 0xA746, nat_lit 0xA746⟩,
     ⟨nat_lit 0xA748, nat_lit 0xA748⟩, ⟨nat_lit 0xA74A, nat_lit 0xA74A⟩,
     ⟨nat_lit 0xA74C, nat_lit 0xA74C⟩, ⟨nat_lit 0xA74E, nat_lit 0xA74E⟩,
     ⟨nat_lit 0xA750, nat_lit 0xA750⟩, ⟨nat_lit 0xA752, nat_lit 0xA752⟩,
     ⟨nat_lit 0xA754, nat_lit 0xA754⟩, ⟨nat_lit 0xA756, nat_lit 0xA756⟩,
     ⟨nat_lit 0xA758, nat_lit 0xA758⟩, ⟨nat_lit 0xA75A, nat_lit 0xA75A⟩,
     ⟨nat_lit 0xA75C, nat_lit 0xA75C⟩, ⟨nat_lit 0xA75E, nat_lit 0xA75E⟩,
     ⟨nat_lit 0xA760, nat_lit 0xA760⟩, ⟨nat_lit 0xA762, nat_lit 0xA762⟩,
     ⟨nat_lit 0xA764, nat_lit 0xA764⟩, ⟨nat_lit 0xA766, nat_lit 0xA766⟩,
     ⟨nat_lit 0xA768, nat_lit 0xA768⟩, ⟨nat_lit 0xA76A, nat_lit 0xA76A⟩,
     ⟨nat_lit 0xA76C, nat_lit 0xA76C⟩, ⟨nat_lit 0xA76E, nat_lit 0xA76E⟩,
     ⟨nat_lit 0xA779, nat_lit 0xA779⟩, ⟨nat_lit 0xA77B, nat_lit 0xA77B⟩,
     ⟨nat_lit 0xA77D, nat_lit 0xA77E⟩, ⟨nat_lit 0xA780, nat_lit 0xA780⟩,
     ⟨nat_lit 0xA782, nat_lit 0xA782⟩, ⟨nat_lit 0xA784, nat_lit 0xA784⟩,
     ⟨nat_lit 0xA786, nat_lit 0xA786⟩, ⟨nat_lit 0xA78B, nat_lit 0xA78B⟩,
     ⟨nat_lit 0xA78D, nat_lit 0xA78D⟩, ⟨nat_lit 0xA790, nat_lit 0xA790⟩,
     ⟨nat_lit 0xA792, nat_lit 0xA792⟩, ⟨nat_lit 0xA796, nat_lit 0xA796⟩,
     ⟨nat_lit 0xA798, nat_lit 0xA798⟩, ⟨nat_lit 0xA79A, nat_lit 0xA79A⟩,
     ⟨nat_lit 0xA79C, nat_lit 0xA79C⟩, ⟨nat_lit 0xA79E, nat_lit 0xA79E⟩,
     ⟨nat_lit 0xA7A0, nat_lit 0xA7A0⟩, ⟨nat_lit 0xA7A2, nat_lit 0xA7A2⟩,
     ⟨nat_lit 0xA7A4, nat_lit 0xA7A4⟩, ⟨nat_lit 0xA7A6, nat_lit 0xA7A6⟩,
     ⟨nat_lit 0xA7A8, nat_lit 0xA7A8⟩, ⟨nat_lit 0xA7AA, nat_lit 0xA7AE⟩,
     ⟨nat_lit 0xA7B0, nat_lit 0xA7B4⟩, ⟨nat_lit 0xA7B6, nat_lit 0xA7B6⟩,
     ⟨nat_lit 0xA7B8, nat_lit 0xA7B8⟩, ⟨nat_lit 0xA7BA, nat_lit 0xA7BA⟩,
     ⟨nat_lit 0xA7BC, nat_lit 0xA7BC⟩, ⟨nat_lit 0xA7BE, nat_lit 0xA7BE⟩,
     ⟨nat_lit 0xA7C0, nat_lit 0xA7C0⟩, ⟨nat_lit 0xA7C2, nat_lit 0xA7C2⟩,
     ⟨nat_lit 0xA7C4, nat_lit 0xA7C7⟩, ⟨nat_lit 0xA7C9, nat_lit 0xA7C9⟩,
     ⟨nat_lit 0xA7CB, nat_lit 0xA7CC⟩, ⟨nat_lit 0xA7D0, nat_lit 0xA7D0⟩,
     ⟨nat_lit 0xA7D6, nat_lit 0xA7D6⟩, ⟨nat_lit 0xA7D8, nat_lit 0xA7D8⟩,
     ⟨nat_lit 0xA7DA, nat_lit 0xA7DA⟩, ⟨nat_lit 0xA7DC, nat_lit 0xA7DC⟩,
     ⟨nat_lit 0xA7F5, nat_lit 0xA7F5⟩, ⟨nat_lit 0xFF21, nat_lit 0xFF3A⟩,
     ⟨nat_lit 0x10400, nat_lit 0x10427⟩, ⟨nat_lit 0x104B0, nat_lit 0x104D3⟩,
     ⟨nat_lit 0x10570, nat_lit 0x1057A⟩, ⟨nat_lit 0x1057C, nat_lit 0x1058A⟩,
     ⟨nat_lit 0x1058C, nat_lit 0x10592⟩, ⟨nat_lit 0x10594, nat_lit 0x10595⟩,
     ⟨nat_lit 0x10C80, nat_lit 0x10CB2⟩, ⟨nat_lit 0x10D50, nat_lit 0x10D65⟩,
     ⟨nat_lit 0x118A0, nat_lit 0x118BF⟩, ⟨nat_lit 0x16E40, nat_lit 0x16E5F⟩,
     ⟨nat_lit 0x1D400, nat_lit 0x1D419⟩, ⟨nat_lit 0x1D434, nat_lit 0x1D44D⟩,
     ⟨nat_lit 0x1D468, nat_lit 0x1D481⟩, ⟨nat_lit 0x1D49C, nat_lit 0x1D49C⟩,
     ⟨nat_lit 0x1D49E, nat_lit 0x1D49F⟩, ⟨nat_lit 0x1D4A2, nat_lit 0x1D4A2⟩,
     ⟨nat_lit 0x1D4A5, nat_lit 0x1D4A6⟩, ⟨nat_lit 0x1D4A9, nat_lit 0x1D4AC⟩,
     ⟨nat_lit 0x1D4AE, nat_lit 0x1D4B5⟩, ⟨nat_lit 0x1D4D0, nat_lit 0x1D4E9⟩,
     ⟨nat_lit 0x1D504, nat_lit 0x1D505⟩, ⟨nat_lit 0x1D507, nat_lit 0x1D50A⟩,
     ⟨nat_lit 0x1D50D, nat_lit 0x1D514⟩, ⟨nat_lit 0x1D516, nat_lit 0x1D51C⟩,
     ⟨nat_lit 0x1D538, nat_lit 0x1D539⟩, ⟨nat_lit 0x1D53B, nat_lit 0x1D53E⟩,
     ⟨nat_lit 0x1D540, nat_lit 0x1D544⟩, ⟨nat_lit 0x1D546, nat_lit 0x1D546⟩,
     ⟨nat_lit 0x1D54A, nat_lit 0x1D550⟩, ⟨nat_lit 0x1D56C, nat_lit 0x1D585⟩,
     ⟨nat_lit 0x1D5A0, nat_lit 0x1D5B9⟩, ⟨nat_lit 0x1D5D4, nat_lit 0x1D5ED⟩,
     ⟨nat_lit 0x1D608, nat_lit 0x1D621⟩, ⟨nat_lit 0x1D63C, nat_lit 0x1D655⟩,
     ⟨nat_lit 0x1D670, nat_lit 0x1D689⟩, ⟨nat_lit 0x1D6A8, nat_lit 0x1D6C0⟩,
     ⟨nat_lit 0x1D6E2, nat_lit 0x1D6FA⟩, ⟨nat_lit 0x1D71C, nat_lit 0x1D734⟩,
     ⟨nat_lit 0x1D756, nat_lit 0x1D76E⟩, ⟨nat_lit 0x1D790, nat_lit 0x1D7A8⟩,
     ⟨nat_lit 0x1D7CA, nat_lit 0x1D7CA⟩, ⟨nat_lit 0x1E900, nat_lit 0x1E921⟩,
     ⟨nat_lit 0x1F130, nat_lit 0x1F149⟩, ⟨nat_lit 0x1F150, nat_lit 0x1F169⟩,
     ⟨nat_lit 0x1F170, nat_lit 0x1F189⟩]),
  ("Changes_When_Casefolded",
    [⟨nat_lit 0x41, nat_lit 0x5A⟩, ⟨nat_lit 0xB5, nat_lit 0xB5⟩, ⟨nat_lit 0xC0, nat_lit 0xD6⟩,
     ⟨nat_lit 0xD8, nat_lit 0xDF⟩, ⟨nat_lit 0x100, nat_lit 0x100⟩, ⟨nat_lit 0x102, nat_lit 0x102⟩,
     ⟨nat_lit 0x104, nat_lit 0x104⟩, ⟨nat_lit 0x106, nat_lit 0x106⟩,
     ⟨nat_lit 0x108, nat_lit 0x108⟩, ⟨nat_lit 0x10A, nat_lit 0x10A⟩,
     ⟨nat_lit 0x10C, nat_lit 0x10C⟩, ⟨nat_lit 0x10E, nat_lit 0x10E⟩,
     ⟨nat_lit 0x110, nat_lit 0x110⟩, ⟨nat_lit 0x112, nat_lit 0x112⟩,
     ⟨nat_lit 0x114, nat_lit 0x114⟩, ⟨nat_lit 0x116, nat_lit 0x116⟩,
     ⟨nat_lit 0x118, nat_lit 0x118⟩, ⟨nat_lit 0x11A, nat_lit 0x11A⟩,
     ⟨nat_lit 0x11C, nat_lit 0x11C⟩, ⟨nat_lit 0x11E, nat_lit 0x11E⟩,
     ⟨nat_lit 0x120, nat_lit 0x120⟩, ⟨nat_lit 0x122, nat_lit 0x122⟩,
     ⟨nat_lit 0x124, nat_lit 0x124⟩, ⟨nat_lit 0x126, nat_lit 0x126⟩,
     ⟨nat_lit 0x128, nat_lit 0x128⟩, ⟨nat_lit 0x12A, nat_lit 0x12A⟩,
     ⟨nat_lit 0x12C, nat_lit 0x12C⟩, ⟨nat_lit 0x12E, nat_lit 0x12E⟩,
     ⟨nat_lit 0x130, nat_lit 0x130⟩, ⟨nat_lit 0x132, nat_lit 0x132⟩,
     ⟨nat_lit 0x134, nat_lit 0x134⟩, ⟨nat_lit 0x136, nat_lit 0x136⟩,
     ⟨nat_lit 0x139, nat_lit 0x139⟩, ⟨nat_lit 0x13B, nat_lit 0x13B⟩,
     ⟨nat_lit 0x13D, nat_lit 0x13D⟩, ⟨nat_lit 0x13F, nat_lit 0x13F⟩,
     ⟨nat_lit 0x141, nat_lit 0x141⟩, ⟨nat_lit 0x143, nat_lit 0x143⟩,
     ⟨nat_lit 0x145, nat_lit 0x145⟩, ⟨nat_lit 0x147, nat_lit 0x147⟩,
     ⟨nat_lit 0x149, nat_lit 0x14A⟩, ⟨nat_lit 0x14C, nat_lit 0x14C⟩,
     ⟨nat_lit 0x14E, nat_lit 0x14E⟩, ⟨nat_lit 0x150, nat_lit 0x150⟩,
     ⟨nat_lit 0x152, nat_lit 0x152⟩, ⟨nat_lit 0x154, nat_lit 0x154⟩,
     ⟨nat_lit 0x156, nat_lit 0x156⟩, ⟨nat_lit 0x158, nat_lit 0x158⟩,
     ⟨nat_lit 0x15A, nat_lit 0x15A⟩, ⟨nat_lit 0x15C, nat_lit 0x15C⟩,
     ⟨nat_lit 0x15E, nat_lit 0x15E⟩, ⟨nat_lit 0x160, nat_lit 0x160⟩,
     ⟨nat_lit 0x162, nat_lit 0x162⟩, ⟨nat_lit 0x164, nat_lit 0x164⟩,
     ⟨nat_lit 0x166, nat_lit 0x166⟩, ⟨nat_lit 0x168, nat_lit 0x168⟩,
     ⟨nat_lit 0x16A, nat_lit 0x16A⟩, ⟨nat_lit 0x16C, nat_lit 0x16C⟩,
     ⟨nat_lit 0x16E, nat_lit 0x16E⟩, ⟨nat_lit 0x170, nat_lit 0x170⟩,
     ⟨nat_lit 0x172, nat_lit 0x172⟩, ⟨nat_lit 0x174, nat_lit 0x174⟩,
     ⟨nat_lit 0x176, nat_lit 0x176⟩, ⟨nat_lit 0x178, nat_lit 0x179⟩,
     ⟨nat_lit 0x17B, nat_lit 0x17B⟩, ⟨nat_lit 0x17D, nat_lit 0x17D⟩,
     ⟨nat_lit 0x17F, nat_lit 0x17F⟩, ⟨nat_lit 0x181, nat_lit 0x182⟩,
     ⟨nat_lit 0x184, nat_lit 0x184⟩, ⟨nat_lit 0x186, nat_lit 0x187⟩,
     ⟨nat_lit 0x189, nat_lit 0x18B⟩, ⟨nat_lit 0x18E, nat_lit 0x191⟩,
     ⟨nat_lit 0x193, nat_lit 0x194⟩, ⟨nat_lit 0x196, nat_lit 0x198⟩,
     ⟨nat_lit 0x19C, nat_lit 0x19D⟩, ⟨nat_lit 0x19F, nat_lit 0x1A0⟩,
     ⟨nat_lit 0x1A2, nat_lit 0x1A2⟩, ⟨nat_lit 0x1A4, nat_lit 0x1A4⟩,
     ⟨nat_lit 0x1A6, nat_lit 0x1A7⟩, ⟨nat_lit 0x1A9, nat_lit 0x1A9⟩,
     ⟨nat_lit 0x1AC, nat_lit 0x1AC⟩, ⟨nat_lit 0x1AE, nat_lit 0x1AF⟩,
     ⟨nat_lit 0x1B1, nat_lit 0x1B3⟩, ⟨nat_lit 0x1B5, nat_lit 0x1B5⟩,
     ⟨nat_lit 0x1B7, nat_lit 0x1B8⟩, ⟨nat_lit 0x1BC, nat_lit 0x1BC⟩,
     ⟨nat_lit 0x1C4, nat_lit 0x1C5⟩, ⟨nat_lit 0x1C7, nat_lit 0x1C8⟩,
     ⟨nat_lit 0x1CA, nat_lit 0x1CB⟩, ⟨nat_lit 0x1CD, nat_lit 0x1CD⟩,
     ⟨nat_lit 0x1CF, nat_lit 0x1CF⟩, ⟨nat_lit 0x1D1, nat_lit 0x1D1⟩,
     ⟨nat_lit 0x1D3, nat_lit 0x1D3⟩, ⟨nat_lit 0x1D5, nat_lit 0x1D5⟩,
     ⟨nat_lit 0x1D7, nat_lit 0x1D7⟩, ⟨nat_lit 0x1D9, nat_lit 0x1D9⟩,
     ⟨nat_lit 0x1DB, nat_lit 0x1DB⟩, ⟨nat_lit 0x1DE, nat_lit 0x1DE⟩,
     ⟨nat_lit 0x1E0, nat_lit 0x1E0⟩, ⟨nat_lit 0x1E2, nat_lit 0x1E2⟩,
     ⟨nat_lit 0x1E4, nat_lit 0x1E4⟩, ⟨nat_lit 0x1E6, nat_lit 0x1E6⟩,
     ⟨nat_lit 0x1E8, nat_lit 0x1E8⟩, ⟨nat_lit 0x1EA, nat_lit 0x1EA⟩,
     ⟨nat_lit 0x1EC, nat_lit 0x1EC⟩, ⟨nat_lit 0x1EE, nat_lit 0x1EE⟩,
     ⟨nat_lit 0x1F1, nat_lit 0x1F2⟩, ⟨nat_lit 0x1F4, nat_lit 0x1F4⟩,
     ⟨nat_lit 0x1F6, nat_lit 0x1F8⟩, ⟨nat_lit 0x1FA, nat_lit 0x1FA⟩,
     ⟨nat_lit 0x1FC, nat_lit 0x1FC⟩, ⟨nat_lit 0x1FE, nat_lit 0x1FE⟩,
     ⟨nat_lit 0x200, nat_lit 0x200⟩, ⟨nat_lit 0x202, nat_lit 0x202⟩,
     ⟨nat_lit 0x204, nat_lit 0x204⟩, ⟨nat_lit 0x206, nat_lit 0x206⟩,
     ⟨nat_lit 0x208, nat_lit 0x208⟩, ⟨nat_lit 0x20A, nat_lit 0x20A⟩,
     ⟨nat_lit 0x20C, nat_lit 0x20C⟩, ⟨nat_lit 0x20E, nat_lit 0x20E⟩,
     ⟨nat_lit 0x210, nat_lit 0x210⟩, ⟨nat_lit 0x212, nat_lit 0x212⟩,
     ⟨nat_lit 0x214, nat_lit 0x214⟩, ⟨nat_lit 0x216, nat_lit 0x216⟩,
     ⟨nat_lit 0x218, nat_lit 0x218⟩, ⟨nat_lit 0x21A, nat_lit 0x21A⟩,
     ⟨nat_lit 0x21C, nat_lit 0x21C⟩, ⟨nat_lit 0x21E, nat_lit 0x21E⟩,
     ⟨nat_lit 0x220, nat_lit 0x220⟩, ⟨nat_lit 0x222, nat_lit 0x222⟩,
     ⟨nat_lit 0x224, nat_lit 0x224⟩, ⟨nat_lit 0x226, nat_lit 0x226⟩,
     ⟨nat_lit 0x228, nat_lit 0x228⟩, ⟨nat_lit 0x22A, nat_lit 0x22A⟩,
     ⟨nat_lit 0x22C, nat_lit 0x22C⟩, ⟨nat_lit 0x22E, nat_lit 0x22E⟩,
     ⟨nat_lit 0x230, nat_lit 0x230⟩, ⟨nat_lit 0x232, nat_lit 0x232⟩,
     ⟨nat_lit 0x23A, nat_lit 0x23B⟩, ⟨nat_lit 0x23D, nat_lit 0x23E⟩,
     ⟨nat_lit 0x241, nat_lit 0x241⟩, ⟨nat_lit 0x243, nat_lit 0x246⟩,
     ⟨nat_lit 0x248, nat_lit 0x248⟩, ⟨nat_lit 0x24A, nat_lit 0x24A⟩,
     ⟨nat_lit 0x24C, nat_lit 0x24C⟩, ⟨nat_lit 0x24E, nat_lit 0x24E⟩,
     ⟨nat_lit 0x345, nat_lit 0x345⟩, ⟨nat_lit 0x370, nat_lit 0x370⟩,
     ⟨nat_lit 0x372, nat_lit 0x372⟩, ⟨nat_lit 0x376, nat_lit 0x376⟩,
     ⟨nat_lit 0x37F, nat_lit 0x37F⟩, ⟨nat_lit 0x386, nat_lit 0x386⟩,
     ⟨nat_lit 0x388, nat_lit 0x38A⟩, ⟨nat_lit 0x38C, nat_lit 0x38C⟩,
     ⟨nat_lit 0x38E, nat_lit 0x38F⟩, ⟨nat_lit 0x391, nat_lit 0x3A1⟩,
     ⟨nat_lit 0x3A3, nat_lit 0x3AB⟩, ⟨nat_lit 0x3C2, nat_lit 0x3C2⟩,
     ⟨nat_lit 0x3CF, nat_lit 0x3D1⟩, ⟨nat_lit 0x3D5, nat_lit 0x3D6⟩,
     ⟨nat_lit 0x3D8, nat_lit 0x3D8⟩, ⟨nat_lit 0x3DA, nat_lit 0x3DA⟩,
     ⟨nat_lit 0x3DC, nat_lit 0x3DC⟩, ⟨nat_lit 0x3DE, nat_lit 0x3DE⟩,
     ⟨nat_lit 0x3E0, nat_lit 0x3E0⟩, ⟨nat_lit 0x3E2, nat_lit 0x3E2⟩,
     ⟨nat_lit 0x3E4, nat_lit 0x3E4⟩, ⟨nat_lit 0x3E6, nat_lit 0x3E6⟩,
     ⟨nat_lit 0x3E8, nat_lit 0x3E8⟩, ⟨nat_lit 0x3EA, nat_lit 0x3EA⟩,
     ⟨nat_lit 0x3EC, nat_lit 0x3EC⟩, ⟨nat_lit 0x3EE, nat_lit 0x3EE⟩,
     ⟨nat_lit 0x3F0, nat_lit 0x3F1⟩, ⟨nat_lit 0x3F4, nat_lit 0x3F5⟩,
     ⟨nat_lit 0x3F7, nat_lit 0x3F7⟩, ⟨nat_lit 0x3F9, nat_lit 0x3FA⟩,
     ⟨nat_lit 0x3FD, nat_lit 0x42F⟩, ⟨nat_lit 0x460, nat_lit 0x460⟩,
     ⟨nat_lit 0x462, nat_lit 0x462⟩, ⟨nat_lit 0x464, nat_lit 0x464⟩,
     ⟨nat_lit 0x466, nat_lit 0x466⟩, ⟨nat_lit 0x468, nat_lit 0x468⟩,
     ⟨nat_lit 0x46A, nat_lit 0x46A⟩, ⟨nat_lit 0x46C, nat_lit 0x46C⟩,
     ⟨nat_lit 0x46E, nat_lit 0x46E⟩, ⟨nat_lit 0x470, nat_lit 0x470⟩,
     ⟨nat_lit 0x472, nat_lit 0x472⟩, ⟨nat_lit 0x474, nat_lit 0x474⟩,
     ⟨nat_lit 0x476, nat_lit 0x476⟩, ⟨nat_lit 0x478, nat_lit 0x478⟩,
     ⟨nat_lit 0x47A, nat_lit 0x47A⟩, ⟨nat_lit 0x47C, nat_lit 0x47C⟩,
     ⟨nat_lit 0x47E, nat_lit 0x47E⟩, ⟨nat_lit 0x480, nat_lit 0x480⟩,
     ⟨nat_lit 0x48A, nat_lit 0x48A⟩, ⟨nat_lit 0x48C, nat_lit 0x48C⟩,
     ⟨nat_lit 0x48E, nat_lit 0x48E⟩, ⟨nat_lit 0x490, nat_lit 0x490⟩,
     ⟨nat_lit 0x492, nat_lit 0x492⟩, ⟨nat_lit 0x494, nat_lit 0x494⟩,
     ⟨nat_lit 0x496, nat_lit 0x496⟩, ⟨nat_lit 0x498, nat_lit 0x498⟩,
     ⟨nat_lit 0x49A, nat_lit 0x49A⟩, ⟨nat_lit 0x49C, nat_lit 0x49C⟩,
     ⟨nat_lit 0x49E, nat_lit 0x49E⟩, ⟨nat_lit 0x4A0, nat_lit 0x4A0⟩,
     ⟨nat_lit 0x4A2, nat_lit 0x4A2⟩, ⟨nat_lit 0x4A4, nat_lit 0x4A4⟩,
     ⟨nat_lit 0x4A6, nat_lit 0x4A6⟩, ⟨nat_lit 0x4A8, nat_lit 0x4A8⟩,
     ⟨nat_lit 0x4AA, nat_lit 0x4AA⟩, ⟨nat_lit 0x4AC, nat_lit 0x4AC⟩,
     ⟨nat_lit 0x4AE, nat_lit 0x4AE⟩, ⟨nat_lit 0x4B0, nat_lit 0x4B0⟩,
     ⟨nat_lit 0x4B2, nat_lit 0x4B2⟩, ⟨nat_lit 0x4B4, nat_lit 0x4B4⟩,
     ⟨nat_lit 0x4B6, nat_lit 0x4B6⟩, ⟨nat_lit 0x4B8, nat_lit 0x4B8⟩,
     ⟨nat_lit 0x4BA, nat_lit 0x4BA⟩, ⟨nat_lit 0x4BC, nat_lit 0x4BC⟩,
     ⟨nat_lit 0x4BE, nat_lit 0x4BE⟩, ⟨nat_lit 0x4C0, nat_lit 0x4C1⟩,
     ⟨nat_lit 0x4C3, nat_lit 0x4C3⟩, ⟨nat_lit 0x4C5, nat_lit 0x4C5⟩,
     ⟨nat_lit 0x4C7, nat_lit 0x4C7⟩, ⟨nat_lit 0x4C9, nat_lit 0x4C9⟩,
     ⟨nat_lit 0x4CB, nat_lit 0x4CB⟩, ⟨nat_lit 0x4CD, nat_lit 0x4CD⟩,
     ⟨nat_lit 0x4D0, nat_lit 0x4D0⟩, ⟨nat_lit 0x4D2, nat_lit 0x4D2⟩,
     ⟨nat_lit 0x4D4, nat_lit 0x4D4⟩, ⟨nat_lit 0x4D6, nat_lit 0x4D6⟩,
     ⟨nat_lit 0x4D8, nat_lit 0x4D8⟩, ⟨nat_lit 0x4DA, nat_lit 0x4DA⟩,
     ⟨nat_lit 0x4DC, nat_lit 0x4DC⟩, ⟨nat_lit 0x4DE, nat_lit 0x4DE⟩,
     ⟨nat_lit 0x4E0, nat_lit 0x4E0⟩, ⟨nat_lit 0x4E2, nat_lit 0x4E2⟩,
     ⟨nat_lit 0x4E4, nat_lit 0x4E4⟩, ⟨nat_lit 0x4E6, nat_lit 0x4E6⟩,
     ⟨nat_lit 0x4E8, nat_lit 0x4E8⟩, ⟨nat_lit 0x4EA, nat_lit 0x4EA⟩,
     ⟨nat_lit 0x4EC, nat_lit 0x4EC⟩, ⟨nat_lit 0x4EE, nat_lit 0x4EE⟩,
     ⟨nat_lit 0x4F0, nat_lit 0x4F0⟩, ⟨nat_lit 0x4F2, nat_lit 0x4F2⟩,
     ⟨nat_lit 0x4F4, nat_lit 0x4F4⟩, ⟨nat_lit 0x4F6, nat_lit 0x4F6⟩,
     ⟨nat_lit 0x4F8, nat_lit 0x4F8⟩, ⟨nat_lit 0x4FA, nat_lit 0x4FA⟩,
     ⟨nat_lit 0x4FC, nat_lit 0x4FC⟩, ⟨nat_lit 0x4FE, nat_lit 0x4FE⟩,
     ⟨nat_lit 0x500, nat_lit 0x500⟩, ⟨nat_lit 0x502, nat_lit 0x502⟩,
     ⟨nat_lit 0x504, nat_lit 0x504⟩, ⟨nat_lit 0x506, nat_lit 0x506⟩,
     ⟨nat_lit 0x508, nat_lit 0x508⟩, ⟨nat_lit 0x50A, nat_lit 0x50A⟩,
     ⟨nat_lit 0x50C, nat_lit 0x50C⟩, ⟨nat_lit 0x50E, nat_lit 0x50E⟩,
     ⟨nat_lit 0x510, nat_lit 0x510⟩, ⟨nat_lit 0x512, nat_lit 0x512⟩,
     ⟨nat_lit 0x514, nat_lit 0x514⟩, ⟨nat_lit 0x516, nat_lit 0x516⟩,
     ⟨nat_lit 0x518, nat_lit 0x518⟩, ⟨nat_lit 0x51A, nat_lit 0x51A⟩,
     ⟨nat_lit 0x51C, nat_lit 0x51C⟩, ⟨nat_lit 0x51E, nat_lit 0x51E⟩,
     ⟨nat_lit 0x520, nat_lit 0x520⟩, ⟨nat_lit 0x522, nat_lit 0x522⟩,
     ⟨nat_lit 0x524, nat_lit 0x524⟩, ⟨nat_lit 0x526, nat_lit 0x526⟩,
     ⟨nat_lit 0x528, nat_lit 0x528⟩, ⟨nat_lit 0x52A, nat_lit 0x52A⟩,
     ⟨nat_lit 0x52C, nat_lit 0x52C⟩, ⟨nat_lit 0x52E, nat_lit 0x52E⟩,
     ⟨nat_lit 0x531, nat_lit 0x556⟩, ⟨nat_lit 0x587, nat_lit 0x587⟩,
     ⟨nat_lit 0x10A0, nat_lit 0x10C5⟩, ⟨nat_lit 0x10C7, nat_lit 0x10C7⟩,
     ⟨nat_lit 0x10CD, nat_lit 0x10CD⟩, ⟨nat_lit 0x13F8, nat_lit 0x13FD⟩,
     ⟨nat_lit 0x1C80, nat_lit 0x1C89⟩, ⟨nat_lit 0x1C90, nat_lit 0x1CBA⟩,
     ⟨nat_lit 0x1CBD, nat_lit 0x1CBF⟩, ⟨nat_lit 0x1E00, nat_lit 0x1E00⟩,
     ⟨nat_lit 0x1E02, nat_lit 0x1E02⟩, ⟨nat_lit 0x1E04, nat_lit 0x1E04⟩,
     ⟨nat_lit 0x1E06, nat_lit 0x1E06⟩, ⟨nat_lit 0x1E08, nat_lit 0x1E08⟩,
     ⟨nat_lit 0x1E0A, nat_lit 0x1E0A⟩, ⟨nat_lit 0x1E0C, nat_lit 0x1E0C⟩,
     ⟨nat_lit 0x1E0E, nat_lit 0x1E0E⟩, ⟨nat_lit 0x1E10, nat_lit 0x1E10⟩,
     ⟨nat_lit 0x1E12, nat_lit 0x1E12⟩, ⟨nat_lit 0x1E14, nat_lit 0x1E14⟩,
     ⟨nat_lit 0x1E16, nat_lit 0x1E16⟩, ⟨nat_lit 0x1E18, nat_lit 0x1E18⟩,
     ⟨nat_lit 0x1E1A, nat_lit 0x1E1A⟩, ⟨nat_lit 0x1E1C, nat_lit 0x1E1C⟩,
     ⟨nat_lit 0x1E1E, nat_lit 0x1E1E⟩, ⟨nat_lit 0x1E20, nat_lit 0x1E20⟩,
     ⟨nat_lit 0x1E22, nat_lit 0x1E22⟩, ⟨nat_lit 0x1E24, nat_lit 0x1E24⟩,
     ⟨nat_lit 0x1E26, nat_lit 0x1E26⟩, ⟨nat_lit 0x1E28, nat_lit 0x1E28⟩,
     ⟨nat_lit 0x1E2A, nat_lit 0x1E2A⟩, ⟨nat_lit 0x1E2C, nat_lit 0x1E2C⟩,
     ⟨nat_lit 0x1E2E, nat_lit 0x1E2E⟩, ⟨nat_lit 0x1E30, nat_lit 0x1E30⟩,
     ⟨nat_lit 0x1E32, nat_lit 0x1E32⟩, ⟨nat_lit 0x1E34, nat_lit 0x1E34⟩,
     ⟨nat_lit 0x1E36, nat_lit 0x1E36⟩, ⟨nat_lit 0x1E38, nat_lit 0x1E38⟩,
     ⟨nat_lit 0x1E3A, nat_lit 0x1E3A⟩, ⟨nat_lit 0x1E3C, nat_lit 0x1E3C⟩,
     ⟨nat_lit 0x1E3E, nat_lit 0x1E3E⟩, ⟨nat_lit 0x1E40, nat_lit 0x1E40⟩,
     ⟨nat_lit 0x1E42, nat_lit 0x1E42⟩, ⟨nat_lit 0x1E44, nat_lit 0x1E44⟩,
     ⟨nat_lit 0x1E46, nat_lit 0x1E46⟩, ⟨nat_lit 0x1E48, nat_lit 0x1E48⟩,
     ⟨nat_lit 0x1E4A, nat_lit 0x1E4A⟩, ⟨nat_lit 0x1E4C, nat_lit 0x1E4C⟩,
     ⟨nat_lit 0x1E4E, nat_lit 0x1E4E⟩, ⟨nat_lit 0x1E50, nat_lit 0x1E50⟩,
     ⟨nat_lit 0x1E52, nat_lit 0x1E52⟩, ⟨nat_lit 0x1E54, nat_lit 0x1E54⟩,
     ⟨nat_lit 0x1E56, nat_lit 0x1E56⟩, ⟨nat_lit 0x1E58, nat_lit 0x1E58⟩,
     ⟨nat_lit 0x1E5A, nat_lit 0x1E5A⟩, ⟨nat_lit 0x1E5C, nat_lit 0x1E5C⟩,
     ⟨nat_lit 0x1E5E, nat_lit 0x1E5E⟩, ⟨nat_lit 0x1E60, nat_lit 0x1E60⟩,
     ⟨nat_lit 0x1E62, nat_lit 0x1E62⟩, ⟨nat_lit 0x1E64, nat_lit 0x1E64⟩,
     ⟨nat_lit 0x1E66, nat_lit 0x1E66⟩, ⟨nat_lit 0x1E68, nat_lit 0x1E68⟩,
     ⟨nat_lit 0x1E6A, nat_lit 0x1E6A⟩, ⟨nat_lit 0x1E6C, nat_lit 0x1E6C⟩,
     ⟨nat_lit 0x1E6E, nat_lit 0x1E6E⟩, ⟨nat_lit 0x1E70, nat_lit 0x1E70⟩,
     ⟨nat_lit 0x1E72, nat_lit 0x1E72⟩, ⟨nat_lit 0x1E74, nat_lit 0x1E74⟩,
     ⟨nat_lit 0x1E76, nat_lit 0x1E76⟩, ⟨nat_lit 0x1E78, nat_lit 0x1E78⟩,
     ⟨nat_lit 0x1E7A, nat_lit 0x1E7A⟩, ⟨nat_lit 0x1E7C, nat_lit 0x1E7C⟩,
     ⟨nat_lit 0x1E7E, nat_lit 0x1E7E⟩, ⟨nat_lit 0x1E80, nat_lit 0x1E80⟩,
     ⟨nat_lit 0x1E82, nat_lit 0x1E82⟩, ⟨nat_lit 0x1E84, nat_lit 0x1E84⟩,
     ⟨nat_lit 0x1E86, nat_lit 0x1E86⟩, ⟨nat_lit 0x1E88, nat_lit 0x1E88⟩,
     ⟨nat_lit 0x1E8A, nat_lit 0x1E8A⟩, ⟨nat_lit 0x1E8C, nat_lit 0x1E8C⟩,
     ⟨nat_lit 0x1E8E, nat_lit 0x1E8E⟩, ⟨nat_lit 0x1E90, nat_lit 0x1E90⟩,
     ⟨nat_lit 0x1E92, nat_lit 0x1E92⟩, ⟨nat_lit 0x1E94, nat_lit 0x1E94⟩,
     ⟨nat_lit 0x1E9A, nat_lit 0x1E9B⟩, ⟨nat_lit 0x1E9E, nat_lit 0x1E9E⟩,
     ⟨nat_lit 0x1EA0, nat_lit 0x1EA0⟩, ⟨nat_lit 0x1EA2, nat_lit 0x1EA2⟩,
     ⟨nat_lit 0x1EA4, nat_lit 0x1EA4⟩, ⟨nat_lit 0x1EA6, nat_lit 0x1EA6⟩,
     ⟨nat_lit 0x1EA8, nat_lit 0x1EA8⟩, ⟨nat_lit 0x1EAA, nat_lit 0x1EAA⟩,
     ⟨nat_lit 0x1EAC, nat_lit 0x1EAC⟩, ⟨nat_lit 0x1EAE, nat_lit 0x1EAE⟩,
     ⟨nat_lit 0x1EB0, nat_lit 0x1EB0⟩, ⟨nat_lit 0x1EB2, nat_lit 0x1EB2⟩,
     ⟨nat_lit 0x1EB4, nat_lit 0x1EB4⟩, ⟨nat_lit 0x1EB6, nat_lit 0x1EB6⟩,
     ⟨nat_lit 0x1EB8, nat_lit 0x1EB8⟩, ⟨nat_lit 0x1EBA, nat_lit 0x1EBA⟩,
     ⟨nat_lit 0x1EBC, nat_lit 0x1EBC⟩, ⟨nat_lit 0x1EBE, nat_lit 0x1EBE⟩,
     ⟨nat_lit 0x1EC0, nat_lit 0x1EC0⟩, ⟨nat_lit 0x1EC2, nat_lit 0x1EC2⟩,
     ⟨nat_lit 0x1EC4, nat_lit 0x1EC4⟩, ⟨nat_lit 0x1EC6, nat_lit 0x1EC6⟩,
     ⟨nat_lit 0x1EC8, nat_lit 0x1EC8⟩, ⟨nat_lit 0x1ECA, nat_lit 0x1ECA⟩,
     ⟨nat_lit 0x1ECC, nat_lit 0x1ECC⟩, ⟨nat_lit 0x1ECE, nat_lit 0x1ECE⟩,
     ⟨nat_lit 0x1ED0, nat_lit 0x1ED0⟩, ⟨nat_lit 0x1ED2, nat_lit 0x1ED2⟩,
     ⟨nat_lit 0x1ED4, nat_lit 0x1ED4⟩, ⟨nat_lit 0x1ED6, nat_lit 0x1ED6⟩,
     ⟨nat_lit 0x1ED8, nat_lit 0x1ED8⟩, ⟨nat_lit 0x1EDA, nat_lit 0x1EDA⟩,
     ⟨nat_lit 0x1EDC, nat_lit 0x1EDC⟩, ⟨nat_lit 0x1EDE, nat_lit 0x1EDE⟩,
     ⟨nat_lit 0x1EE0, nat_lit 0x1EE0⟩, ⟨nat_lit 0x1EE2, nat_lit 0x1EE2⟩,
     ⟨nat_lit 0x1EE4, nat_lit 0x1EE4⟩, ⟨nat_lit 0x1EE6, nat_lit 0x1EE6⟩,
     ⟨nat_lit 0x1EE8, nat_lit 0x1EE8⟩, ⟨nat_lit 0x1EEA, nat_lit 0x1EEA⟩,
     ⟨nat_lit 0x1EEC, nat_lit 0x1EEC⟩, ⟨nat_lit 0x1EEE, nat_lit 0x1EEE⟩,
     ⟨nat_lit 0x1EF0, nat_lit 0x1EF0⟩, ⟨nat_lit 0x1EF2, nat_lit 0x1EF2⟩,
     ⟨nat_lit 0x1EF4, nat_lit 0x1EF4⟩, ⟨nat_lit 0x1EF6, nat_lit 0x1EF6⟩,
     ⟨nat_lit 0x1EF8, nat_lit 0x1EF8⟩, ⟨nat_lit 0x1EFA, nat_lit 0x1EFA⟩,
     ⟨nat_lit 0x1EFC, nat_lit 0x1EFC⟩, ⟨nat_lit 0x1EFE, nat_lit 0x1EFE⟩,
     ⟨nat_lit 0x1F08, nat_lit 0x1F0F⟩, ⟨nat_lit 0x1F18, nat_lit 0x1F1D⟩,
     ⟨nat_lit 0x1F28, nat_lit 0x1F2F⟩, ⟨nat_lit 0x1F38, nat_lit 0x1F3F⟩,
     ⟨nat_lit 0x1F48, nat_lit 0x1F4D⟩, ⟨nat_lit 0x1F59, nat_lit 0x1F59⟩,
     ⟨nat_lit 0x1F5B, nat_lit 0x1F5B⟩, ⟨nat_lit 0x1F5D, nat_lit 0x1F5D⟩,
     ⟨nat_lit 0x1F5F, nat_lit 0x1F5F⟩, ⟨nat_lit 0x1F68, nat_lit 0x1F6F⟩,
     ⟨nat_lit 0x1F80, nat_lit 0x1FAF⟩, ⟨nat_lit 0x1FB2, nat_lit 0x1FB4⟩,
     ⟨nat_lit 0x1FB7, nat_lit 0x1FBC⟩, ⟨nat_lit 0x1FC2, nat_lit 0x1FC4⟩,
     ⟨nat_lit 0x1FC7, nat_lit 0x1FCC⟩, ⟨nat_lit 0x1FD8, nat_lit 0x1FDB⟩,
     ⟨nat_lit 0x1FE8, nat_lit 0x1FEC⟩, ⟨nat_lit 0x1FF2, nat_lit 0x1FF4⟩,
     ⟨nat_lit 0x1FF7, nat_lit 0x1FFC⟩, ⟨nat_lit 0x2126, nat_lit 0x2126⟩,
     ⟨nat_lit 0x212A, nat_lit 0x212B⟩, ⟨nat_lit 0x2132, nat_lit 0x2132⟩,
     ⟨nat_lit 0x2160, nat_lit 0x216F⟩, ⟨nat_lit 0x2183, nat_lit 0x2183⟩,
     ⟨nat_lit 0x24B6, nat_lit 0x24CF⟩, ⟨nat_lit 0x2C00, nat_lit 0x2C2F⟩,
     ⟨nat_lit 0x2C60, nat_lit 0x2C60⟩, ⟨nat_lit 0x2C62, nat_lit 0x2C64⟩,
     ⟨nat_lit 0x2C67, nat_lit 0x2C67⟩, ⟨nat_lit 0x2C69, nat_lit 0x2C69⟩,
     ⟨nat_lit 0x2C6B, nat_lit 0x2C6B⟩, ⟨nat_lit 0x2C6D, nat_lit 0x2C70⟩,
     ⟨nat_lit 0x2C72, nat_lit 0x2C72⟩, ⟨nat_lit 0x2C75, nat_lit 0x2C75⟩,
     ⟨nat_lit 0x2C7E, nat_lit 0x2C80⟩, ⟨nat_lit 0x2C82, nat_lit 0x2C82⟩,
     ⟨nat_lit 0x2C84, nat_lit 0x2C84⟩, ⟨nat_lit 0x2C86, nat_lit 0x2C86⟩,
     ⟨nat_lit 0x2C88, nat_lit 0x2C88⟩, ⟨nat_lit 0x2C8A, nat_lit 0x2C8A⟩,
     ⟨nat_lit 0x2C8C, nat_lit 0x2C8C⟩, ⟨nat_lit 0x2C8E, nat_lit 0x2C8E⟩,
     ⟨nat_lit 0x2C90, nat_lit 0x2C90⟩, ⟨nat_lit 0x2C92, nat_lit 0x2C92⟩,
     ⟨nat_lit 0x2C94, nat_lit 0x2C94⟩, ⟨nat_lit 0x2C96, nat_lit 0x2C96⟩,
     ⟨nat_lit 0x2C98, nat_lit 0x2C98⟩, ⟨nat_lit 0x2C9A, nat_lit 0x2C9A⟩,
     ⟨nat_lit 0x2C9C, nat_lit 0x2C9C⟩, ⟨nat_lit 0x2C9E, nat_lit 0x2C9E⟩,
     ⟨nat_lit 0x2CA0, nat_lit 0x2CA0⟩, ⟨nat_lit 0x2CA2, nat_lit 0x2CA2⟩,
     ⟨nat_lit 0x2CA4, nat_lit 0x2CA4⟩, ⟨nat_lit 0x2CA6, nat_lit 0x2CA6⟩,
     ⟨nat_lit 0x2CA8, nat_lit 0x2CA8⟩, ⟨nat_lit 0x2CAA, nat_lit 0x2CAA⟩,
     ⟨nat_lit 0x2CAC, nat_lit 0x2CAC⟩, ⟨nat_lit 0x2CAE, nat_lit 0x2CAE⟩,
     ⟨nat_lit 0x2CB0, nat_lit 0x2CB0⟩, ⟨nat_lit 0x2CB2, nat_lit 0x2CB2⟩,
     ⟨nat_lit 0x2CB4, nat_lit 0x2CB4⟩, ⟨nat_lit 0x2CB6, nat_lit 0x2CB6⟩,
     ⟨nat_lit 0x2CB8, nat_lit 0x2CB8⟩, ⟨nat_lit 0x2CBA, nat_lit 0x2CBA⟩,
     ⟨nat_lit 0x2CBC, nat_lit 0x2CBC⟩, ⟨nat_lit 0x2CBE, nat_lit 0x2CBE⟩,
     ⟨nat_lit 0x2CC0, nat_lit 0x2CC0⟩, ⟨nat_lit 0x2CC2, nat_lit 0x2CC2⟩,
     ⟨nat_lit 0x2CC4, nat_lit 0x2CC4⟩, ⟨nat_lit 0x2CC6, nat_lit 0x2CC6⟩,
     ⟨nat_lit 0x2CC8, nat_lit 0x2CC8⟩, ⟨nat_lit 0x2CCA, nat_lit 0x2CCA⟩,
     ⟨nat_lit 0x2CCC, nat_lit 0x2CCC⟩, ⟨nat_lit 0x2CCE, nat_lit 0x2CCE⟩,
     ⟨nat_lit 0x2CD0, nat_lit 0x2CD0⟩, ⟨nat_lit 0x2CD2, nat_lit 0x2CD2⟩,
     ⟨nat_lit 0x2CD4, nat_lit 0x2CD4⟩, ⟨nat_lit 0x2CD6, nat_lit 0x2CD6⟩,
     ⟨nat_lit 0x2CD8, nat_lit 0x2CD8⟩, ⟨nat_lit 0x2CDA, nat_lit 0x2CDA⟩,
     ⟨nat_lit 0x2CDC, nat_lit 0x2CDC⟩, ⟨nat_lit 0x2CDE, nat_lit 0x2CDE⟩,
     ⟨nat_lit 0x2CE0, nat_lit 0x2CE0⟩, ⟨nat_lit 0x2CE2, nat_lit 0x2CE2⟩,
     ⟨nat_lit 0x2CEB, nat_lit 0x2CEB⟩, ⟨nat_lit 0x2CED, nat_lit 0x2CED⟩,
     ⟨nat_lit 0x2CF2, nat_lit 0x2CF2⟩, ⟨nat_lit 0xA640, nat_lit 0xA640⟩,
     ⟨nat_lit 0xA642, nat_lit 0xA642⟩, ⟨nat_lit 0xA644, nat_lit 0xA644⟩,
     ⟨nat_lit 0xA646, nat_lit 0xA646⟩, ⟨nat_lit 0xA648, nat_lit 0xA648⟩,
     ⟨nat_lit 0xA64A, nat_lit 0xA64A⟩, ⟨nat_lit 0xA64C, nat_lit 0xA64C⟩,
     ⟨nat_lit 0xA64E, nat_lit 0xA64E⟩, ⟨nat_lit 0xA650, nat_lit 0xA650⟩,
     ⟨nat_lit 0xA652, nat_lit 0xA652⟩, ⟨nat_lit 0xA654, nat_lit 0xA654⟩,
     ⟨nat_lit 0xA656, nat_lit 0xA656⟩, ⟨nat_lit 0xA658, nat_lit 0xA658⟩,
     ⟨nat_lit 0xA65A, nat_lit 0xA65A⟩, ⟨nat_lit 0xA65C, nat_lit 0xA65C⟩,
     ⟨nat_lit 0xA65E, nat_lit 0xA65E⟩, ⟨nat_lit 0xA660, nat_lit 0xA660⟩,
     ⟨nat_lit 0xA662, nat_lit 0xA662⟩, ⟨nat_lit 0xA664, nat_lit 0xA664⟩,
     ⟨nat_lit 0xA666, nat_lit 0xA666⟩, ⟨nat_lit 0xA668, nat_lit 0xA668⟩,
     ⟨nat_lit 0xA66A, nat_lit 0xA66A⟩, ⟨nat_lit 0xA66C, nat_lit 0xA66C⟩,
     ⟨nat_lit 0xA680, nat_lit 0xA680⟩, ⟨nat_lit 0xA682, nat_lit 0xA682⟩,
     ⟨nat_lit 0xA684, nat_lit 0xA684⟩, ⟨nat_lit 0xA686, nat_lit 0xA686⟩,
     ⟨nat_lit 0xA688, nat_lit 0xA688⟩, ⟨nat_lit 0xA68A, nat_lit 0xA68A⟩,
     ⟨nat_lit 0xA68C, nat_lit 0xA68C⟩, ⟨nat_lit 0xA68E, nat_lit 0xA68E⟩,
     ⟨nat_lit 0xA690, nat_lit 0xA690⟩, ⟨nat_lit 0xA692, nat_lit 0xA692⟩,
     ⟨nat_lit 0xA694, nat_lit 0xA694⟩, ⟨nat_lit 0xA696, nat_lit 0xA696⟩,
     ⟨nat_lit 0xA698, nat_lit 0xA698⟩, ⟨nat_lit 0xA69A, nat_lit 0xA69A⟩,
     ⟨nat_lit 0xA722, nat_lit 0xA722⟩, ⟨nat_lit 0xA724, nat_lit 0xA724⟩,
     ⟨nat_lit 0xA726, nat_lit 0xA726⟩, ⟨nat_lit 0xA728, nat_lit 0xA728⟩,
     ⟨nat_lit 0xA72A, nat_lit 0xA72A⟩, ⟨nat_lit 0xA72C, nat_lit 0xA72C⟩,
     ⟨nat_lit 0xA72E, nat_lit 0xA72E⟩, ⟨nat_lit 0xA732, nat_lit 0xA732⟩,
     ⟨nat_lit 0xA734, nat_lit 0xA734⟩, ⟨nat_lit 0xA736, nat_lit 0xA736⟩,
     ⟨nat_lit 0xA738, nat_lit 0xA738⟩, ⟨nat_lit 0xA73A, nat_lit 0xA73A⟩,
     ⟨nat_lit 0xA73C, nat_lit 0xA73C⟩, ⟨nat_lit 0xA73E, nat_lit 0xA73E⟩,
     ⟨nat_lit 0xA740, nat_lit 0xA740⟩, ⟨nat_lit 0xA742, nat_lit 0xA742⟩,
     ⟨nat_lit 0xA744, nat_lit 0xA744⟩, ⟨nat_lit 0xA746, nat_lit 0xA746⟩,
     ⟨nat_lit 0xA748, nat_lit 0xA748⟩, ⟨nat_lit 0xA74A, nat_lit 0xA74A⟩,
     ⟨nat_lit 0xA74C, nat_lit 0xA74C⟩, ⟨nat_lit 0xA74E, nat_lit 0xA74E⟩,
     ⟨nat_lit 0xA750, nat_lit 0xA750⟩, ⟨nat_lit 0xA752, nat_lit 0xA752⟩,
     ⟨nat_lit 0xA754, nat_lit 0xA754⟩, ⟨nat_lit 0xA756, nat_lit 0xA756⟩,
     ⟨nat_lit 0xA758, nat_lit 0xA758⟩, ⟨nat_lit 0xA75A, nat_lit 0xA75A⟩,
     ⟨nat_lit 0xA75C, nat_lit 0xA75C⟩, ⟨nat_lit 0xA75E, nat_lit 0xA75E⟩,
     ⟨nat_lit 0xA760, nat_lit 0xA760⟩, ⟨nat_lit 0xA762, nat_lit 0xA762⟩,
     ⟨nat_lit 0xA764, nat_lit 0xA764⟩, ⟨nat_lit 0xA766, nat_lit 0xA766⟩,
     ⟨nat_lit 0xA768, nat_lit 0xA768⟩, ⟨nat_lit 0xA76A, nat_lit 0xA76A⟩,
     ⟨nat_lit 0xA76C, nat_lit 0xA76C⟩, ⟨nat_lit 0xA76E, nat_lit 0xA76E⟩,
     ⟨nat_lit 0xA779, nat_lit 0xA779⟩, ⟨nat_lit 0xA77B, nat_lit 0xA77B⟩,
     ⟨nat_lit 0xA77D, nat_lit 0xA77E⟩, ⟨nat_lit 0xA780, nat_lit 0xA780⟩,
     ⟨nat_lit 0xA782, nat_lit 0xA782⟩, ⟨nat_lit 0xA784, nat_lit 0xA784⟩,
     ⟨nat_lit 0xA786, nat_lit 0xA786⟩, ⟨nat_lit 0xA78B, nat_lit 0xA78B⟩,
     ⟨nat_lit 0xA78D, nat_lit 0xA78D⟩, ⟨nat_lit 0xA790, nat_lit 0xA790⟩,
     ⟨nat_lit 0xA792, nat_lit 0xA792⟩, ⟨nat_lit 0xA796, nat_lit 0xA796⟩,
     ⟨nat_lit 0xA798, nat_lit 0xA798⟩, ⟨nat_lit 0xA79A, nat_lit 0xA79A⟩,
     ⟨nat_lit 0xA79C, nat_lit 0xA79C⟩, ⟨nat_lit 0xA79E, nat_lit 0xA79E⟩,
     ⟨nat_lit 0xA7A0, nat_lit 0xA7A0⟩, ⟨nat_lit 0xA7A2, nat_lit 0xA7A2⟩,
     ⟨nat_lit 0xA7A4, nat_lit 0xA7A4⟩, ⟨nat_lit 0xA7A6, nat_lit 0xA7A6⟩,
     ⟨nat_lit 0xA7A8, nat_lit 0xA7A8⟩, ⟨nat_lit 0xA7AA, nat_lit 0xA7AE⟩,
     ⟨nat_lit 0xA7B0, nat_lit 0xA7B4⟩, ⟨nat_lit 0xA7B6, nat_lit 0xA7B6⟩,
     ⟨nat_lit 0xA7B8, nat_lit 0xA7B8⟩, ⟨nat_lit 0xA7BA, nat_lit 0xA7BA⟩,
     ⟨nat_lit 0xA7BC, nat_lit 0xA7BC⟩, ⟨nat_lit 0xA7BE, nat_lit 0xA7BE⟩,
     ⟨nat_lit 0xA7C0, nat_lit 0xA7C0⟩, ⟨nat_lit 0xA7C2, nat_lit 0xA7C2⟩,
     ⟨nat_lit 0xA7C4, nat_lit 0xA7C7⟩, ⟨nat_lit 0xA7C9, nat_lit 0xA7C9⟩,
     ⟨nat_lit 0xA7CB, nat_lit 0xA7CC⟩, ⟨nat_lit 0xA7D0, nat_lit 0xA7D0⟩,
     ⟨nat_lit 0xA7D6, nat_lit 0xA7D6⟩, ⟨nat_lit 0xA7D8, nat_lit 0xA7D8⟩,
     ⟨nat_lit 0xA7DA, nat_lit 0xA7DA⟩, ⟨nat_lit 0xA7DC, nat_lit 0xA7DC⟩,
     ⟨nat_lit 0xA7F5, nat_lit 0xA7F5⟩, ⟨nat_lit 0xAB70, nat_lit 0xABBF⟩,
     ⟨nat_lit 0xFB00, nat_lit 0xFB06⟩, ⟨nat_lit 0xFB13, nat_lit 0xFB17⟩,
     ⟨nat_lit 0xFF21, nat_lit 0xFF3A⟩, ⟨nat_lit 0x10400, nat_lit 0x10427⟩,
     ⟨nat_lit 0x104B0, nat_lit 0x104D3⟩, ⟨nat_lit 0x10570, nat_lit 0x1057A⟩,
     ⟨nat_lit 0x1057C, nat_lit 0x1058A⟩, ⟨nat_lit 0x1058C, nat_lit 0x10592⟩,
     ⟨nat_lit 0x10594, nat_lit 0x10595⟩, ⟨nat_lit 0x10C80, nat_lit 0x10CB2⟩,
     ⟨nat_lit 0x10D50, nat_lit 0x10D65⟩, ⟨nat_lit 0x118A0, nat_lit 0x118BF⟩,
     ⟨nat_lit 0x16E40, nat_lit 0x16E5F⟩, ⟨nat_lit 0x1E900, nat_lit 0x1E921⟩]),
  ("Changes_When_Casemapped",
    [⟨nat_lit 0x41, nat_lit 0x5A⟩, ⟨nat_lit 0x61, nat_lit 0x7A⟩, ⟨nat_lit 0xB5, nat_lit 0xB5⟩,
     ⟨nat_lit 0xC0, nat_lit 0xD6⟩, ⟨nat_lit 0xD8, nat_lit 0xF6⟩, ⟨nat_lit 0xF8, nat_lit 0x137⟩,
     ⟨nat_lit 0x139, nat_lit 0x18C⟩, ⟨nat_lit 0x18E, nat_lit 0x1A9⟩,
     ⟨nat_lit 0x1AC, nat_lit 0x1B9⟩, ⟨nat_lit 0x1BC, nat_lit 0x1BD⟩,
     ⟨nat_lit 0x1BF, nat_lit 0x1BF⟩, ⟨nat_lit 0x1C4, nat_lit 0x220⟩,
     ⟨nat_lit 0x222, nat_lit 0x233⟩, ⟨nat_lit 0x23A, nat_lit 0x254⟩,
     ⟨nat_lit 0x256, nat_lit 0x257⟩, ⟨nat_lit 0x259, nat_lit 0x259⟩,
     ⟨nat_lit 0x25B, nat_lit 0x25C⟩, ⟨nat_lit 0x260, nat_lit 0x261⟩,
     ⟨nat_lit 0x263, nat_lit 0x266⟩, ⟨nat_lit 0x268, nat_lit 0x26C⟩,
     ⟨nat_lit 0x26F, nat_lit 0x26F⟩, ⟨nat_lit 0x271, nat_lit 0x272⟩,
     ⟨nat_lit 0x275, nat_lit 0x275⟩, ⟨nat_lit 0x27D, nat_lit 0x27D⟩,
     ⟨nat_lit 0x280, nat_lit 0x280⟩, ⟨nat_lit 0x282, nat_lit 0x283⟩,
     ⟨nat_lit 0x287, nat_lit 0x28C⟩, ⟨nat_lit 0x292, nat_lit 0x292⟩,
     ⟨nat_lit 0x29D, nat_lit 0x29E⟩, ⟨nat_lit 0x345, nat_lit 0x345⟩,
     ⟨nat_lit 0x370, nat_lit 0x373⟩, ⟨nat_lit 0x376, nat_lit 0x377⟩,
     ⟨nat_lit 0x37B, nat_lit 0x37D⟩, ⟨nat_lit 0x37F, nat_lit 0x37F⟩,
     ⟨nat_lit 0x386, nat_lit 0x386⟩, ⟨nat_lit 0x388, nat_lit 0x38A⟩,
     ⟨nat_lit 0x38C, nat_lit 0x38C⟩, ⟨nat_lit 0x38E, nat_lit 0x3A1⟩,
     ⟨nat_lit 0x3A3, nat_lit 0x3D1⟩, ⟨nat_lit 0x3D5, nat_lit 0x3F5⟩,
     ⟨nat_lit 0x3F7, nat_lit 0x3FB⟩, ⟨nat_lit 0x3FD, nat_lit 0x481⟩,
     ⟨nat_lit 0x48A, nat_lit 0x52F⟩, ⟨nat_lit 0x531, nat_lit 0x556⟩,
     ⟨nat_lit 0x561, nat_lit 0x587⟩, ⟨nat_lit 0x10A0, nat_lit 0x10C5⟩,
     ⟨nat_lit 0x10C7, nat_lit 0x10C7⟩, ⟨nat_lit 0x10CD, nat_lit 0x10CD⟩,
     ⟨nat_lit 0x10D0, nat_lit 0x10FA⟩, ⟨nat_lit 0x10FD, nat_lit 0x10FF⟩,
     ⟨nat_lit 0x13A0, nat_lit 0x13F5⟩, ⟨nat_lit 0x13F8, nat_lit 0x13FD⟩,
     ⟨nat_lit 0x1C80, nat_lit 0x1C8A⟩, ⟨nat_lit 0x1C90, nat_lit 0x1CBA⟩,
     ⟨nat_lit 0x1CBD, nat_lit 0x1CBF⟩, ⟨nat_lit 0x1D79, nat_lit 0x1D79⟩,
     ⟨nat_lit 0x1D7D, nat_lit 0x1D7D⟩, ⟨nat_lit 0x1D8E, nat_lit 0x1D8E⟩,
     ⟨nat_lit 0x1E00, nat_lit 0x1E9B⟩, ⟨nat_lit 0x1E9E, nat_lit 0x1E9E⟩,
     ⟨nat_lit 0x1EA0, nat_lit 0x1F15⟩, ⟨nat_lit 0x1F18, nat_lit 0x1F1D⟩,
     ⟨nat_lit 0x1F20, nat_lit 0x1F45⟩, ⟨nat_lit 0x1F48, nat_lit 0x1F4D⟩,
     ⟨nat_lit 0x1F50, nat_lit 0x1F57⟩, ⟨nat_lit 0x1F59, nat_lit 0x1F59⟩,
     ⟨nat_lit 0x1F5B, nat_lit 0x1F5B⟩, ⟨nat_lit 0x1F5D, nat_lit 0x1F5D⟩,
     ⟨nat_lit 0x1F5F, nat_lit 0x1F7D⟩, ⟨nat_lit 0x1F80, nat_lit 0x1FB4⟩,
     ⟨nat_lit 0x1FB6, nat_lit 0x1FBC⟩, ⟨nat_lit 0x1FBE, nat_lit 0x1FBE⟩,
     ⟨nat_lit 0x1FC2, nat_lit 0x1FC4⟩, ⟨nat_lit 0x1FC6, nat_lit 0x1FCC⟩,
     ⟨nat_lit 0x1FD0, nat_lit 0x1FD3⟩, ⟨nat_lit 0x1FD6, nat_lit 0x1FDB⟩,
     ⟨nat_lit 0x1FE0, nat_lit 0x1FEC⟩, ⟨nat_lit 0x1FF2, nat_lit 0x1FF4⟩,
     ⟨nat_lit 0x1FF6, nat_lit 0x1FFC⟩, ⟨nat_lit 0x2126, nat_lit 0x2126⟩,
     ⟨nat_lit 0x212A, nat_lit 0x212B⟩, ⟨nat_lit 0x2132, nat_lit 0x2132⟩,
     ⟨nat_lit 0x214E, nat_lit 0x214E⟩, ⟨nat_lit 0x2160, nat_lit 0x217F⟩,
     ⟨nat_lit 0x2183, nat_lit 0x2184⟩, ⟨nat_lit 0x24B6, nat_lit 0x24E9⟩,
     ⟨nat_lit 0x2C00, nat_lit 0x2C70⟩, ⟨nat_lit 0x2C72, nat_lit 0x2C73⟩,
     ⟨nat_lit 0x2C75, nat_lit 0x2C76⟩, ⟨nat_lit 0x2C7E, nat_lit 0x2CE3⟩,
     ⟨nat_lit 0x2CEB, nat_lit 0x2CEE⟩, ⟨nat_lit 0x2CF2, nat_lit 0x2CF3⟩,
     ⟨nat_lit 0x2D00, nat_lit 0x2D25⟩, ⟨nat_lit 0x2D27, nat_lit 0x2D27⟩,
     ⟨nat_lit 0x2D2D, nat_lit 0x2D2D⟩, ⟨nat_lit 0xA640, nat_lit 0xA66D⟩,
     ⟨nat_lit 0xA680, nat_lit 0xA69B⟩, ⟨nat_lit 0xA722, nat_lit 0xA72F⟩,
     ⟨nat_lit 0xA732, nat_lit 0xA76F⟩, ⟨nat_lit 0xA779, nat_lit 0xA787⟩,
     ⟨nat_lit 0xA78B, nat_lit 0xA78D⟩, ⟨nat_lit 0xA790, nat_lit 0xA794⟩,
     ⟨nat_lit 0xA796, nat_lit 0xA7AE⟩, ⟨nat_lit 0xA7B0, nat_lit 0xA7CD⟩,
     ⟨nat_lit 0xA7D0, nat_lit 0xA7D1⟩, ⟨nat_lit 0xA7D6, nat_lit 0xA7DC⟩,
     ⟨nat_lit 0xA7F5, nat_lit 0xA7F6⟩, ⟨nat_lit 0xAB53, nat_lit 0xAB53⟩,
     ⟨nat_lit 0xAB70, nat_lit 0xABBF⟩, ⟨nat_lit 0xFB00, nat_lit 0xFB06⟩,
     ⟨nat_lit 0xFB13, nat_lit 0xFB17⟩, ⟨nat_lit 0xFF21, nat_lit 0xFF3A⟩,
     ⟨nat_lit 0xFF41, nat_lit 0xFF5A⟩, ⟨nat_lit 0x10400, nat_lit 0x1044F⟩,
     ⟨nat_lit 0x104B0, nat_lit 0x104D3⟩, ⟨nat_lit 0x104D8, nat_lit 0x104FB⟩,
     ⟨nat_lit 0x10570, nat_lit 0x1057A⟩, ⟨nat_lit 0x1057C, nat_lit 0x1058A⟩,
     ⟨nat_lit 0x1058C, nat_lit 0x10592⟩, ⟨nat_lit 0x10594, nat_lit 0x10595⟩,
     ⟨nat_lit 0x10597, nat_lit 0x105A1⟩, ⟨nat_lit 0x105A3, nat_lit 0x105B1⟩,
     ⟨nat_lit 0x105B3, nat_lit 0x105B9⟩, ⟨nat_lit 0x105BB, nat_lit 0x105BC⟩,
     ⟨nat_lit 0x10C80, nat_lit 0x10CB2⟩, ⟨nat_lit 0x10CC0, nat_lit 0x10CF2⟩,
     ⟨nat_lit 0x10D50, nat_lit 0x10D65⟩, ⟨nat_lit 0x10D70, nat_lit 0x10D85⟩,
     ⟨nat_lit 0x118A0, nat_lit 0x118DF⟩, ⟨nat_lit 0x16E40, nat_lit 0x16E7F⟩,
     ⟨nat_lit 0x1E900, nat_lit 0x1E943⟩]),
  ("Changes_When_Lowercased",
    [⟨nat_lit 0x41, nat_lit 0x5A⟩, ⟨nat_lit 0xC0, nat_lit 0xD6⟩, ⟨nat_lit 0xD8, nat_lit 0xDE⟩,
     ⟨nat_lit 0x100, nat_lit 0x100⟩, ⟨nat_lit 0x102, nat_lit 0x102⟩,
     ⟨nat_lit 0x104, nat_lit 0x104⟩, ⟨nat_lit 0x106, nat_lit 0x106⟩,
     ⟨nat_lit 0x108, nat_lit 0x108⟩, ⟨nat_lit 0x10A, nat_lit 0x10A⟩,
     ⟨nat_lit 0x10C, nat_lit 0x10C⟩, ⟨nat_lit 0x10E, nat_lit 0x10E⟩,
     ⟨nat_lit 0x110, nat_lit 0x110⟩, ⟨nat_lit 0x112, nat_lit 0x112⟩,
     ⟨nat_lit 0x114, nat_lit 0x114⟩, ⟨nat_lit 0x116, nat_lit 0x116⟩,
     ⟨nat_lit 0x118, nat_lit 0x118⟩, ⟨nat_lit 0x11A, nat_lit 0x11A⟩,
     ⟨nat_lit 0x11C, nat_lit 0x11C⟩, ⟨nat_lit 0x11E, nat_lit 0x11E⟩,
     ⟨nat_lit 0x120, nat_lit 0x120⟩, ⟨nat_lit 0x122, nat_lit 0x122⟩,
     ⟨nat_lit 0x124, nat_lit 0x124⟩, ⟨nat_lit 0x126, nat_lit 0x126⟩,
     ⟨nat_lit 0x128, nat_lit 0x128⟩, ⟨nat_lit 0x12A, nat_lit 0x12A⟩,
     ⟨nat_lit 0x12C, nat_lit 0x12C⟩, ⟨nat_lit 0x12E, nat_lit 0x12E⟩,
     ⟨nat_lit 0x130, nat_lit 0x130⟩, ⟨nat_lit 0x132, nat_lit 0x132⟩,
     ⟨nat_lit 0x134, nat_lit 0x134⟩, ⟨nat_lit 0x136, nat_lit 0x136⟩,
     ⟨nat_lit 0x139, nat_lit 0x139⟩, ⟨nat_lit 0x13B, nat_lit 0x13B⟩,
     ⟨nat_lit 0x13D, nat_lit 0x13D⟩, ⟨nat_lit 0x13F, nat_lit 0x13F⟩,
     ⟨nat_lit 0x141, nat_lit 0x141⟩, ⟨nat_lit 0x143, nat_lit 0x143⟩,
     ⟨nat_lit 0x145, nat_lit 0x145⟩, ⟨nat_lit 0x147, nat_lit 0x147⟩,
     ⟨nat_lit 0x14A, nat_lit 0x14A⟩, ⟨nat_lit 0x14C, nat_lit 0x14C⟩,
     ⟨nat_lit 0x14E, nat_lit 0x14E⟩, ⟨nat_lit 0x150, nat_lit 0x150⟩,
     ⟨nat_lit 0x152, nat_lit 0x152⟩, ⟨nat_lit 0x154, nat_lit 0x154⟩,
     ⟨nat_lit 0x156, nat_lit 0x156⟩, ⟨nat_lit 0x158, nat_lit 0x158⟩,
     ⟨nat_lit 0x15A, nat_lit 0x15A⟩, ⟨nat_lit 0x15C, nat_lit 0x15C⟩,
     ⟨nat_lit 0x15E, nat_lit 0x15E⟩, ⟨nat_lit 0x160, nat_lit 0x160⟩,
     ⟨nat_lit 0x162, nat_lit 0x162⟩, ⟨nat_lit 0x164, nat_lit 0x164⟩,
     ⟨nat_lit 0x166, nat_lit 0x166⟩, ⟨nat_lit 0x168, nat_lit 0x168⟩,
     ⟨nat_lit 0x16A, nat_lit 0x16A⟩, ⟨nat_lit 0x16C, nat_lit 0x16C⟩,
     ⟨nat_lit 0x16E, nat_lit 0x16E⟩, ⟨nat_lit 0x170, nat_lit 0x170⟩,
     ⟨nat_lit 0x172, nat_lit 0x172⟩, ⟨nat_lit 0x174, nat_lit 0x174⟩,
     ⟨nat_lit 0x176, nat_lit 0x176⟩, ⟨nat_lit 0x178, nat_lit 0x179⟩,
     ⟨nat_lit 0x17B, nat_lit 0x17B⟩, ⟨nat_lit 0x17D, nat_lit 0x17D⟩,
     ⟨nat_lit 0x181, nat_lit 0x182⟩, ⟨nat_lit 0x184, nat_lit 0x184⟩,
     ⟨nat_lit 0x186, nat_lit 0x187⟩, ⟨nat_lit 0x189, nat_lit 0x18B⟩,
     ⟨nat_lit 0x18E, nat_lit 0x191⟩, ⟨nat_lit 0x193, nat_lit 0x194⟩,
     ⟨nat_lit 0x196, nat_lit 0x198⟩, ⟨nat_lit 0x19C, nat_lit 0x19D⟩,
     ⟨nat_lit 0x19F, nat_lit 0x1A0⟩, ⟨nat_lit 0x1A2, nat_lit 0x1A2⟩,
     ⟨nat_lit 0x1A4, nat_lit 0x1A4⟩, ⟨nat_lit 0x1A6, nat_lit 0x1A7⟩,
     ⟨nat_lit 0x1A9, nat_lit 0x1A9⟩, ⟨nat_lit 0x1AC, nat_lit 0x1AC⟩,
     ⟨nat_lit 0x1AE, nat_lit 0x1AF⟩, ⟨nat_lit 0x1B1, nat_lit 0x1B3⟩,
     ⟨nat_lit 0x1B5, nat_lit 0x1B5⟩, ⟨nat_lit 0x1B7, nat_lit 0x1B8⟩,
     ⟨nat_lit 0x1BC, nat_lit 0x1BC⟩, ⟨nat_lit 0x1C4, nat_lit 0x1C5⟩,
     ⟨nat_lit 0x1C7, nat_lit 0x1C8⟩, ⟨nat_lit 0x1CA, nat_lit 0x1CB⟩,
     ⟨nat_lit 0x1CD, nat_lit 0x1CD⟩, ⟨nat_lit 0x1CF, nat_lit 0x1CF⟩,
     ⟨nat_lit 0x1D1, nat_lit 0x1D1⟩, ⟨nat_lit 0x1D3, nat_lit 0x1D3⟩,
     ⟨nat_lit 0x1D5, nat_lit 0x1D5⟩, ⟨nat_lit 0x1D7, nat_lit 0x1D7⟩,
     ⟨nat_lit 0x1D9, nat_lit 0x1D9⟩, ⟨nat_lit 0x1DB, nat_lit 0x1DB⟩,
     ⟨nat_lit 0x1DE, nat_lit 0x1DE⟩, ⟨nat_lit 0x1E0, nat_lit 0x1E0⟩,
     ⟨nat_lit 0x1E2, nat_lit 0x1E2⟩, ⟨nat_lit 0x1E4, nat_lit 0x1E4⟩,
     ⟨nat_lit 0x1E6, nat_lit 0x1E6⟩, ⟨nat_lit 0x1E8, nat_lit 0x1E8⟩,
     ⟨nat_lit 0x1EA, nat_lit 0x1EA⟩, ⟨nat_lit 0x1EC, nat_lit 0x1EC⟩,
     ⟨nat_lit 0x1EE, nat_lit 0x1EE⟩, ⟨nat_lit 0x1F1, nat_lit 0x1F2⟩,
     ⟨nat_lit 0x1F4, nat_lit 0x1F4⟩, ⟨nat_lit 0x1F6, nat_lit 0x1F8⟩,
     ⟨nat_lit 0x1FA, nat_lit 0x1FA⟩, ⟨nat_lit 0x1FC, nat_lit 0x1FC⟩,
     ⟨nat_lit 0x1FE, nat_lit 0x1FE⟩, ⟨nat_lit 0x200, nat_lit 0x200⟩,
     ⟨nat_lit 0x202, nat_lit 0x202⟩, ⟨nat_lit 0x204, nat_lit 0x204⟩,
     ⟨nat_lit 0x206, nat_lit 0x206⟩, ⟨nat_lit 0x208, nat_lit 0x208⟩,
     ⟨nat_lit 0x20A, nat_lit 0x20A⟩, ⟨nat_lit 0x20C, nat_lit 0x20C⟩,
     ⟨nat_lit 0x20E, nat_lit 0x20E⟩, ⟨nat_lit 0x210, nat_lit 0x210⟩,
     ⟨nat_lit 0x212, nat_lit 0x212⟩, ⟨nat_lit 0x214, nat_lit 0x214⟩,
     ⟨nat_lit 0x216, nat_lit 0x216⟩, ⟨nat_lit 0x218, nat_lit 0x218⟩,
     ⟨nat_lit 0x21A, nat_lit 0x21A⟩, ⟨nat_lit 0x21C, nat_lit 0x21C⟩,
     ⟨nat_lit 0x21E, nat_lit 0x21E⟩, ⟨nat_lit 0x220, nat_lit 0x220⟩,
     ⟨nat_lit 0x222, nat_lit 0x222⟩, ⟨nat_lit 0x224, nat_lit 0x224⟩,
     ⟨nat_lit 0x226, nat_lit 0x226⟩, ⟨nat_lit 0x228, nat_lit 0x228⟩,
     ⟨nat_lit 0x22A, nat_lit 0x22A⟩, ⟨nat_lit 0x22C, nat_lit 0x22C⟩,
     ⟨nat_lit 0x22E, nat_lit 0x22E⟩, ⟨nat_lit 0x230, nat_lit 0x230⟩,
     ⟨nat_lit 0x232, nat_lit 0x232⟩, ⟨nat_lit 0x23A, nat_lit 0x23B⟩,
     ⟨nat_lit 0x23D, nat_lit 0x23E⟩, ⟨nat_lit 0x241, nat_lit 0x241⟩,
     ⟨nat_lit 0x243, nat_lit 0x246⟩, ⟨nat_lit 0x248, nat_lit 0x248⟩,
     ⟨nat_lit 0x24A, nat_lit 0x24A⟩, ⟨nat_lit 0x24C, nat_lit 0x24C⟩,
     ⟨nat_lit 0x24E, nat_lit 0x24E⟩, ⟨nat_lit 0x370, nat_lit 0x370⟩,
     ⟨nat_lit 0x372, nat_lit 0x372⟩, ⟨nat_lit 0x376, nat_lit 0x376⟩,
     ⟨nat_lit 0x37F, nat_lit 0x37F⟩, ⟨nat_lit 0x386, nat_lit 0x386⟩,
     ⟨nat_lit 0x388, nat_lit 0x38A⟩, ⟨nat_lit 0x38C, nat_lit 0x38C⟩,
     ⟨nat_lit 0x38E, nat_lit 0x38F⟩, ⟨nat_lit 0x391, nat_lit 0x3A1⟩,
     ⟨nat_lit 0x3A3, nat_lit 0x3AB⟩, ⟨nat_lit 0x3CF, nat_lit 0x3CF⟩,
     ⟨nat_lit 0x3D8, nat_lit 0x3D8⟩, ⟨nat_lit 0x3DA, nat_lit 0x3DA⟩,
     ⟨nat_lit 0x3DC, nat_lit 0x3DC⟩, ⟨nat_lit 0x3DE, nat_lit 0x3DE⟩,
     ⟨nat_lit 0x3E0, nat_lit 0x3E0⟩, ⟨nat_lit 0x3E2, nat_lit 0x3E2⟩,
     ⟨nat_lit 0x3E4, nat_lit 0x3E4⟩, ⟨nat_lit 0x3E6, nat_lit 0x3E6⟩,
     ⟨nat_lit 0x3E8, nat_lit 0x3E8⟩, ⟨nat_lit 0x3EA, nat_lit 0x3EA⟩,
     ⟨nat_lit 0x3EC, nat_lit 0x3EC⟩, ⟨nat_lit 0x3EE, nat_lit 0x3EE⟩,
     ⟨nat_lit 0x3F4, nat_lit 0x3F4⟩, ⟨nat_lit 0x3F7, nat_lit 0x3F7⟩,
     ⟨nat_lit 0x3F9, nat_lit 0x3FA⟩, ⟨nat_lit 0x3FD, nat_lit 0x42F⟩,
     ⟨nat_lit 0x460, nat_lit 0x460⟩, ⟨nat_lit 0x462, nat_lit 0x462⟩,
     ⟨nat_lit 0x464, nat_lit 0x464⟩, ⟨nat_lit 0x466, nat_lit 0x466⟩,
     ⟨nat_lit 0x468, nat_lit 0x468⟩, ⟨nat_lit 0x46A, nat_lit 0x46A⟩,
     ⟨nat_lit 0x46C, nat_lit 0x46C⟩, ⟨nat_lit 0x46E, nat_lit 0x46E⟩,
     ⟨nat_lit 0x470, nat_lit 0x470⟩, ⟨nat_lit 0x472, nat_lit 0x472⟩,
     ⟨nat_lit 0x474, nat_lit 0x474⟩, ⟨nat_lit 0x476, nat_lit 0x476⟩,
     ⟨nat_lit 0x478, nat_lit 0x478⟩, ⟨nat_lit 0x47A, nat_lit 0x47A⟩,
     ⟨nat_lit 0x47C, nat_lit 0x47C⟩, ⟨nat_lit 0x47E, nat_lit 0x47E⟩,
     ⟨nat_lit 0x480, nat_lit 0x480⟩, ⟨nat_lit 0x48A, nat_lit 0x48A⟩,
     ⟨nat_lit 0x48C, nat_lit 0x48C⟩, ⟨nat_lit 0x48E, nat_lit 0x48E⟩,
     ⟨nat_lit 0x490, nat_lit 0x490⟩, ⟨nat_lit 0x492, nat_lit 0x492⟩,
     ⟨nat_lit 0x494, nat_lit 0x494⟩, ⟨nat_lit 0x496, nat_lit 0x496⟩,
     ⟨nat_lit 0x498, nat_lit 0x498⟩, ⟨nat_lit 0x49A, nat_lit 0x49A⟩,
     ⟨nat_lit 0x49C, nat_lit 0x49C⟩, ⟨nat_lit 0x49E, nat_lit 0x49E⟩,
     ⟨nat_lit 0x4A0, nat_lit 0x4A0⟩, ⟨nat_lit 0x4A2, nat_lit 0x4A2⟩,
     ⟨nat_lit 0x4A4, nat_lit 0x4A4⟩, ⟨nat_lit 0x4A6, nat_lit 0x4A6⟩,
     ⟨nat_lit 0x4A8, nat_lit 0x4A8⟩, ⟨nat_lit 0x4AA, nat_lit 0x4AA⟩,
     ⟨nat_lit 0x4AC, nat_lit 0x4AC⟩, ⟨nat_lit 0x4AE, nat_lit 0x4AE⟩,
     ⟨nat_lit 0x4B0, nat_lit 0x4B0⟩, ⟨nat_lit 0x4B2, nat_lit 0x4B2⟩,
     ⟨nat_lit 0x4B4, nat_lit 0x4B4⟩, ⟨nat_lit 0x4B6, nat_lit 0x4B6⟩,
     ⟨nat_lit 0x4B8, nat_lit 0x4B8⟩, ⟨nat_lit 0x4BA, nat_lit 0x4BA⟩,
     ⟨nat_lit 0x4BC, nat_lit 0x4BC⟩, ⟨nat_lit 0x4BE, nat_lit 0x4BE⟩,
     ⟨nat_lit 0x4C0, nat_lit 0x4C1⟩, ⟨nat_lit 0x4C3, nat_lit 0x4C3⟩,
     ⟨nat_lit 0x4C5, nat_lit 0x4C5⟩, ⟨nat_lit 0x4C7, nat_lit 0x4C7⟩,
     ⟨nat_lit 0x4C9, nat_lit 0x4C9⟩, ⟨nat_lit 0x4CB, nat_lit 0x4CB⟩,
     ⟨nat_lit 0x4CD, nat_lit 0x4CD⟩, ⟨nat_lit 0x4D0, nat_lit 0x4D0⟩,
     ⟨nat_lit 0x4D2, nat_lit 0x4D2⟩, ⟨nat_lit 0x4D4, nat_lit 0x4D4⟩,
     ⟨nat_lit 0x4D6, nat_lit 0x4D6⟩, ⟨nat_lit 0x4D8, nat_lit 0x4D8⟩,
     ⟨nat_lit 0x4DA, nat_lit 0x4DA⟩, ⟨nat_lit 0x4DC, nat_lit 0x4DC⟩,
     ⟨nat_lit 0x4DE, nat_lit 0x4DE⟩, ⟨nat_lit 0x4E0, nat_lit 0x4E0⟩,
     ⟨nat_lit 0x4E2, nat_lit 0x4E2⟩, ⟨nat_lit 0x4E4, nat_lit 0x4E4⟩,
     ⟨nat_lit 0x4E6, nat_lit 0x4E6⟩, ⟨nat_lit 0x4E8, nat_lit 0x4E8⟩,
     ⟨nat_lit 0x4EA, nat_lit 0x4EA⟩, ⟨nat_lit 0x4EC, nat_lit 0x4EC⟩,
     ⟨nat_lit 0x4EE, nat_lit 0x4EE⟩, ⟨nat_lit 0x4F0, nat_lit 0x4F0⟩,
     ⟨nat_lit 0x4F2, nat_lit 0x4F2⟩, ⟨nat_lit 0x4F4, nat_lit 0x4F4⟩,
     ⟨nat_lit 0x4F6, nat_lit 0x4F6⟩, ⟨nat_lit 0x4F8, nat_lit 0x4F8⟩,
     ⟨nat_lit 0x4FA, nat_lit 0x4FA⟩, ⟨nat_lit 0x4FC, nat_lit 0x4FC⟩,
     ⟨nat_lit 0x4FE, nat_lit 0x4FE⟩, ⟨nat_lit 0x500, nat_lit 0x500⟩,
     ⟨nat_lit 0x502, nat_lit 0x502⟩, ⟨nat_lit 0x504, nat_lit 0x504⟩,
     ⟨nat_lit 0x506, nat_lit 0x506⟩, ⟨nat_lit 0x508, nat_lit 0x508⟩,
     ⟨nat_lit 0x50A, nat_lit 0x50A⟩, ⟨nat_lit 0x50C, nat_lit 0x50C⟩,
     ⟨nat_lit 0x50E, nat_lit 0x50E⟩, ⟨nat_lit 0x510, nat_lit 0x510⟩,
     ⟨nat_lit 0x512, nat_lit 0x512⟩, ⟨nat_lit 0x514, nat_lit 0x514⟩,
     ⟨nat_lit 0x516, nat_lit 0x516⟩, ⟨nat_lit 0x518, nat_lit 0x518⟩,
     ⟨nat_lit 0x51A, nat_lit 0x51A⟩, ⟨nat_lit 0x51C, nat_lit 0x51C⟩,
     ⟨nat_lit 0x51E, nat_lit 0x51E⟩, ⟨nat_lit 0x520, nat_lit 0x520⟩,
     ⟨nat_lit 0x522, nat_lit 0x522⟩, ⟨nat_lit 0x524, nat_lit 0x524⟩,
     ⟨nat_lit 0x526, nat_lit 0x526⟩, ⟨nat_lit 0x528, nat_lit 0x528⟩,
     ⟨nat_lit 0x52A, nat_lit 0x52A⟩, ⟨nat_lit 0x52C, nat_lit 0x52C⟩,
     ⟨nat_lit 0x52E, nat_lit 0x52E⟩, ⟨nat_lit 0x531, nat_lit 0x556⟩,
     ⟨nat_lit 0x10A0, nat_lit 0x10C5⟩, ⟨nat_lit 0x10C7, nat_lit 0x10C7⟩,
     ⟨nat_lit 0x10CD, nat_lit 0x10CD⟩, ⟨nat_lit 0x13A0, nat_lit 0x13F5⟩,
     ⟨nat_lit 0x1C89, nat_lit 0x1C89⟩, ⟨nat_lit 0x1C90, nat_lit 0x1CBA⟩,
     ⟨nat_lit 0x1CBD, nat_lit 0x1CBF⟩, ⟨nat_lit 0x1E00, nat_lit 0x1E00⟩,
     ⟨nat_lit 0x1E02, nat_lit 0x1E02⟩, ⟨nat_lit 0x1E04, nat_lit 0x1E04⟩,
     ⟨nat_lit 0x1E06, nat_lit 0x1E06⟩, ⟨nat_lit 0x1E08, nat_lit 0x1E08⟩,
     ⟨nat_lit 0x1E0A, nat_lit 0x1E0A⟩, ⟨nat_lit 0x1E0C, nat_lit 0x1E0C⟩,
     ⟨nat_lit 0x1E0E, nat_lit 0x1E0E⟩, ⟨nat_lit 0x1E10, nat_lit 0x1E10⟩,
     ⟨nat_lit 0x1E12, nat_lit 0x1E12⟩, ⟨nat_lit 0x1E14, nat_lit 0x1E14⟩,
     ⟨nat_lit 0x1E16, nat_lit 0x1E16⟩, ⟨nat_lit 0x1E18, nat_lit 0x1E18⟩,
     ⟨nat_lit 0x1E1A, nat_lit 0x1E1A⟩, ⟨nat_lit 0x1E1C, nat_lit 0x1E1C⟩,
     ⟨nat_lit 0x1E1E, nat_lit 0x1E1E⟩, ⟨nat_lit 0x1E20, nat_lit 0x1E20⟩,
     ⟨nat_lit 0x1E22, nat_lit 0x1E22⟩, ⟨nat_lit 0x1E24, nat_lit 0x1E24⟩,
     ⟨nat_lit 0x1E26, nat_lit 0x1E26⟩, ⟨nat_lit 0x1E28, nat_lit 0x1E28⟩,
     ⟨nat_lit 0x1E2A, nat_lit 0x1E2A⟩, ⟨nat_lit 0x1E2C, nat_lit 0x1E2C⟩,
     ⟨nat_lit 0x1E2E, nat_lit 0x1E2E⟩, ⟨nat_lit 0x1E30, nat_lit 0x1E30⟩,
     ⟨nat_lit 0x1E32, nat_lit 0x1E32⟩, ⟨nat_lit 0x1E34, nat_lit 0x1E34⟩,
     ⟨nat_lit 0x1E36, nat_lit 0x1E36⟩, ⟨nat_lit 0x1E38, nat_lit 0x1E38⟩,
     ⟨nat_lit 0x1E3A, nat_lit 0x1E3A⟩, ⟨nat_lit 0x1E3C, nat_lit 0x1E3C⟩,
     ⟨nat_lit 0x1E3E, nat_lit 0x1E3E⟩, ⟨nat_lit 0x1E40, nat_lit 0x1E40⟩,
     ⟨nat_lit 0x1E42, nat_lit 0x1E42⟩, ⟨nat_lit 0x1E44, nat_lit 0x1E44⟩,
     ⟨nat_lit 0x1E46, nat_lit 0x1E46⟩, ⟨nat_lit 0x1E48, nat_lit 0x1E48⟩,
     ⟨nat_lit 0x1E4A, nat_lit 0x1E4A⟩, ⟨nat_lit 0x1E4C, nat_lit 0x1E4C⟩,
     ⟨nat_lit 0x1E4E, nat_lit 0x1E4E⟩, ⟨nat_lit 0x1E50, nat_lit 0x1E50⟩,
     ⟨nat_lit 0x1E52, nat_lit 0x1E52⟩, ⟨nat_lit 0x1E54, nat_lit 0x1E54⟩,
     ⟨nat_lit 0x1E56, nat_lit 0x1E56⟩, ⟨nat_lit 0x1E58, nat_lit 0x1E58⟩,
     ⟨nat_lit 0x1E5A, nat_lit 0x1E5A⟩, ⟨nat_lit 0x1E5C, nat_lit 0x1E5C⟩,
     ⟨nat_lit 0x1E5E, nat_lit 0x1E5E⟩, ⟨nat_lit 0x1E60, nat_lit 0x1E60⟩,
     ⟨nat_lit 0x1E62, nat_lit 0x1E62⟩, ⟨nat_lit 0x1E64, nat_lit 0x1E64⟩,
     ⟨nat_lit 0x1E66, nat_lit 0x1E66⟩, ⟨nat_lit 0x1E68, nat_lit 0x1E68⟩,
     ⟨nat_lit 0x1E6A, nat_lit 0x1E6A⟩, ⟨nat_lit 0x1E6C, nat_lit 0x1E6C⟩,
     ⟨nat_lit 0x1E6E, nat_lit 0x1E6E⟩, ⟨nat_lit 0x1E70, nat_lit 0x1E70⟩,
     ⟨nat_lit 0x1E72, nat_lit 0x1E72⟩, ⟨nat_lit 0x1E74, nat_lit 0x1E74⟩,
     ⟨nat_lit 0x1E76, nat_lit 0x1E76⟩, ⟨nat_lit 0x1E78, nat_lit 0x1E78⟩,
     ⟨nat_lit 0x1E7A, nat_lit 0x1E7A⟩, ⟨nat_lit 0x1E7C, nat_lit 0x1E7C⟩,
     ⟨nat_lit 0x1E7E, nat_lit 0x1E7E⟩, ⟨nat_lit 0x1E80, nat_lit 0x1E80⟩,
     ⟨nat_lit 0x1E82, nat_lit 0x1E82⟩, ⟨nat_lit 0x1E84, nat_lit 0x1E84⟩,
     ⟨nat_lit 0x1E86, nat_lit 0x1E86⟩, ⟨nat_lit 0x1E88, nat_lit 0x1E88⟩,
     ⟨nat_lit 0x1E8A, nat_lit 0x1E8A⟩, ⟨nat_lit 0x1E8C, nat_lit 0x1E8C⟩,
     ⟨nat_lit 0x1E8E, nat_lit 0x1E8E⟩, ⟨nat_lit 0x1E90, nat_lit 0x1E90⟩,
     ⟨nat_lit 0x1E92, nat_lit 0x1E92⟩, ⟨nat_lit 0x1E94, nat_lit 0x1E94⟩,
     ⟨nat_lit 0x1E9E, nat_lit 0x1E9E⟩, ⟨nat_lit 0x1EA0, nat_lit 0x1EA0⟩,
     ⟨nat_lit 0x1EA2, nat_lit 0x1EA2⟩, ⟨nat_lit 0x1EA4, nat_lit 0x1EA4⟩,
     ⟨nat_lit 0x1EA6, nat_lit 0x1EA6⟩, ⟨nat_lit 0x1EA8, nat_lit 0x1EA8⟩,
     ⟨nat_lit 0x1EAA, nat_lit 0x1EAA⟩, ⟨nat_lit 0x1EAC, nat_lit 0x1EAC⟩,
     ⟨nat_lit 0x1EAE, nat_lit 0x1EAE⟩, ⟨nat_lit 0x1EB0, nat_lit 0x1EB0⟩,
     ⟨nat_lit 0x1EB2, nat_lit 0x1EB2⟩, ⟨nat_lit 0x1EB4, nat_lit 0x1EB4⟩,
     ⟨nat_lit 0x1EB6, nat_lit 0x1EB6⟩, ⟨nat_lit 0x1EB8, nat_lit 0x1EB8⟩,
     ⟨nat_lit 0x1EBA, nat_lit 0x1EBA⟩, ⟨nat_lit 0x1EBC, nat_lit 0x1EBC⟩,
     ⟨nat_lit 0x1EBE, nat_lit 0x1EBE⟩, ⟨nat_lit 0x1EC0, nat_lit 0x1EC0⟩,
     ⟨nat_lit 0x1EC2, nat_lit 0x1EC2⟩, ⟨nat_lit 0x1EC4, nat_lit 0x1EC4⟩,
     ⟨nat_lit 0x1EC6, nat_lit 0x1EC6⟩, ⟨nat_lit 0x1EC8, nat_lit 0x1EC8⟩,
     ⟨nat_lit 0x1ECA, nat_lit 0x1ECA⟩, ⟨nat_lit 0x1ECC, nat_lit 0x1ECC⟩,
     ⟨nat_lit 0x1ECE, nat_lit 0x1ECE⟩, ⟨nat_lit 0x1ED0, nat_lit 0x1ED0⟩,
     ⟨nat_lit 0x1ED2, nat_lit 0x1ED2⟩, ⟨nat_lit 0x1ED4, nat_lit 0x1ED4⟩,
     ⟨nat_lit 0x1ED6, nat_lit 0x1ED6⟩, ⟨nat_lit 0x1ED8, nat_lit 0x1ED8⟩,
     ⟨nat_lit 0x1EDA, nat_lit 0x1EDA⟩, ⟨nat_lit 0x1EDC, nat_lit 0x1EDC⟩,
     ⟨nat_lit 0x1EDE, nat_lit 0x1EDE⟩, ⟨nat_lit 0x1EE0, nat_lit 0x1EE0⟩,
     ⟨nat_lit 0x1EE2, nat_lit 0x1EE2⟩, ⟨nat_lit 0x1EE4, nat_lit 0x1EE4⟩,
     ⟨nat_lit 0x1EE6, nat_lit 0x1EE6⟩, ⟨nat_lit 0x1EE8, nat_lit 0x1EE8⟩,
     ⟨nat_lit 0x1EEA, nat_lit 0x1EEA⟩, ⟨nat_lit 0x1EEC, nat_lit 0x1EEC⟩,
     ⟨nat_lit 0x1EEE, nat_lit 0x1EEE⟩, ⟨nat_lit 0x1EF0, nat_lit 0x1EF0⟩,
     ⟨nat_lit 0x1EF2, nat_lit 0x1EF2⟩, ⟨nat_lit 0x1EF4, nat_lit 0x1EF4⟩,
     ⟨nat_lit 0x1EF6, nat_lit 0x1EF6⟩, ⟨nat_lit 0x1EF8, nat_lit 0x1EF8⟩,
     ⟨nat_lit 0x1EFA, nat_lit 0x1EFA⟩, ⟨nat_lit 0x1EFC, nat_lit 0x1EFC⟩,
     ⟨nat_lit 0x1EFE, nat_lit 0x1EFE⟩, ⟨nat_lit 0x1F08, nat_lit 0x1F0F⟩,
     ⟨nat_lit 0x1F18, nat_lit 0x1F1D⟩, ⟨nat_lit 0x1F28, nat_lit 0x1F2F⟩,
     ⟨nat_lit 0x1F38, nat_lit 0x1F3F⟩, ⟨nat_lit 0x1F48, nat_lit 0x1F4D⟩,
     ⟨nat_lit 0x1F59, nat_lit 0x1F59⟩, ⟨nat_lit 0x1F5B, nat_lit 0x1F5B⟩,
     ⟨nat_lit 0x1F5D, nat_lit 0x1F5D⟩, ⟨nat_lit 0x1F5F, nat_lit 0x1F5F⟩,
     ⟨nat_lit 0x1F68, nat_lit 0x1F6F⟩, ⟨nat_lit 0x1F88, nat_lit 0x1F8F⟩,
     ⟨nat_lit 0x1F98, nat_lit 0x1F9F⟩, ⟨nat_lit 0x1FA8, nat_lit 0x1FAF⟩,
     ⟨nat_lit 0x1FB8, nat_lit 0x1FBC⟩, ⟨nat_lit 0x1FC8, nat_lit 0x1FCC⟩,
     ⟨nat_lit 0x1FD8, nat_lit 0x1FDB⟩, ⟨nat_lit 0x1FE8, nat_lit 0x1FEC⟩,
     ⟨nat_lit 0x1FF8, nat_lit 0x1FFC⟩, ⟨nat_lit 0x2126, nat_lit 0x2126⟩,
     ⟨nat_lit 0x212A, nat_lit 0x212B⟩, ⟨nat_lit 0x2132, nat_lit 0x2132⟩,
     ⟨nat_lit 0x2160, nat_lit 0x216F⟩, ⟨nat_lit 0x2183, nat_lit 0x2183⟩,
     ⟨nat_lit 0x24B6, nat_lit 0x24CF⟩, ⟨nat_lit 0x2C00, nat_lit 0x2C2F⟩,
     ⟨nat_lit 0x2C60, nat_lit 0x2C60⟩, ⟨nat_lit 0x2C62, nat_lit 0x2C64⟩,
     ⟨nat_lit 0x2C67, nat_lit 0x2C67⟩, ⟨nat_lit 0x2C69, nat_lit 0x2C69⟩,
     ⟨nat_lit 0x2C6B, nat_lit 0x2C6B⟩, ⟨nat_lit 0x2C6D, nat_lit 0x2C70⟩,
     ⟨nat_lit 0x2C72, nat_lit 0x2C72⟩, ⟨nat_lit 0x2C75, nat_lit 0x2C75⟩,
     ⟨nat_lit 0x2C7E, nat_lit 0x2C80⟩, ⟨nat_lit 0x2C82, nat_lit 0x2C82⟩,
     ⟨nat_lit 0x2C84, nat_lit 0x2C84⟩, ⟨nat_lit 0x2C86, nat_lit 0x2C86⟩,
     ⟨nat_lit 0x2C88, nat_lit 0x2C88⟩, ⟨nat_lit 0x2C8A, nat_lit 0x2C8A⟩,
     ⟨nat_lit 0x2C8C, nat_lit 0x2C8C⟩, ⟨nat_lit 0x2C8E, nat_lit 0x2C8E⟩,
     ⟨nat_lit 0x2C90, nat_lit 0x2C90⟩, ⟨nat_lit 0x2C92, nat_lit 0x2C92⟩,
     ⟨nat_lit 0x2C94, nat_lit 0x2C94⟩, ⟨nat_lit 0x2C96, nat_lit 0x2C96⟩,
     ⟨nat_lit 0x2C98, nat_lit 0x2C98⟩, ⟨nat_lit 0x2C9A, nat_lit 0x2C9A⟩,
     ⟨nat_lit 0x2C9C, nat_lit 0x2C9C⟩, ⟨nat_lit 0x2C9E, nat_lit 0x2C9E⟩,
     ⟨nat_lit 0x2CA0, nat_lit 0x2CA0⟩, ⟨nat_lit 0x2CA2, nat_lit 0x2CA2⟩,
     ⟨nat_lit 0x2CA4, nat_lit 0x2CA4⟩, ⟨nat_lit 0x2CA6, nat_lit 0x2CA6⟩,
     ⟨nat_lit 0x2CA8, nat_lit 0x2CA8⟩, ⟨nat_lit 0x2CAA, nat_lit 0x2CAA⟩,
     ⟨nat_lit 0x2CAC, nat_lit 0x2CAC⟩, ⟨nat_lit 0x2CAE, nat_lit 0x2CAE⟩,
     ⟨nat_lit 0x2CB0, nat_lit 0x2CB0⟩, ⟨nat_lit 0x2CB2, nat_lit 0x2CB2⟩,
     ⟨nat_lit 0x2CB4, nat_lit 0x2CB4⟩, ⟨nat_lit 0x2CB6, nat_lit 0x2CB6⟩,
     ⟨nat_lit 0x2CB8, nat_lit 0x2CB8⟩, ⟨nat_lit 0x2CBA, nat_lit 0x2CBA⟩,
     ⟨nat_lit 0x2CBC, nat_lit 0x2CBC⟩, ⟨nat_lit 0x2CBE, nat_lit 0x2CBE⟩,
     ⟨nat_lit 0x2CC0, nat_lit 0x2CC0⟩, ⟨nat_lit 0x2CC2, nat_lit 0x2CC2⟩,
     ⟨nat_lit 0x2CC4, nat_lit 0x2CC4⟩, ⟨nat_lit 0x2CC6, nat_lit 0x2CC6⟩,
     ⟨nat_lit 0x2CC8, nat_lit 0x2CC8⟩, ⟨nat_lit 0x2CCA, nat_lit 0x2CCA⟩,
     ⟨nat_lit 0x2CCC, nat_lit 0x2CCC⟩, ⟨nat_lit 0x2CCE, nat_lit 0x2CCE⟩,
     ⟨nat_lit 0x2CD0, nat_lit 0x2CD0⟩, ⟨nat_lit 0x2CD2, nat_lit 0x2CD2⟩,
     ⟨nat_lit 0x2CD4, nat_lit 0x2CD4⟩, ⟨nat_lit 0x2CD6, nat_lit 0x2CD6⟩,
     ⟨nat_lit 0x2CD8, nat_lit 0x2CD8⟩, ⟨nat_lit 0x2CDA, nat_lit 0x2CDA⟩,
     ⟨nat_lit 0x2CDC, nat_lit 0x2CDC⟩, ⟨nat_lit 0x2CDE, nat_lit 0x2CDE⟩,
     ⟨nat_lit 0x2CE0, nat_lit 0x2CE0⟩, ⟨nat_lit 0x2CE2, nat_lit 0x2CE2⟩,
     ⟨nat_lit 0x2CEB, nat_lit 0x2CEB⟩, ⟨nat_lit 0x2CED, nat_lit 0x2CED⟩,
     ⟨nat_lit 0x2CF2, nat_lit 0x2CF2⟩, ⟨nat_lit 0xA640, nat_lit 0xA640⟩,
     ⟨nat_lit 0xA642, nat_lit 0xA642⟩, ⟨nat_lit 0xA644, nat_lit 0xA644⟩,
     ⟨nat_lit 0xA646, nat_lit 0xA646⟩, ⟨nat_lit 0xA648, nat_lit 0xA648⟩,
     ⟨nat_lit 0xA64A, nat_lit 0xA64A⟩, ⟨nat_lit 0xA64C, nat_lit 0xA64C⟩,
     ⟨nat_lit 0xA64E, nat_lit 0xA64E⟩, ⟨nat_lit 0xA650, nat_lit 0xA650⟩,
     ⟨nat_lit 0xA652, nat_lit 0xA652⟩, ⟨nat_lit 0xA654, nat_lit 0xA654⟩,
     ⟨nat_lit 0xA656, nat_lit 0xA656⟩, ⟨nat_lit 0xA658, nat_lit 0xA658⟩,
     ⟨nat_lit 0xA65A, nat_lit 0xA65A⟩, ⟨nat_lit 0xA65C, nat_lit 0xA65C⟩,
     ⟨nat_lit 0xA65E, nat_lit 0xA65E⟩, ⟨nat_lit 0xA660, nat_lit 0xA660⟩,
     ⟨nat_lit 0xA662, nat_lit 0xA662⟩, ⟨nat_lit 0xA664, nat_lit 0xA664⟩,
     ⟨nat_lit 0xA666, nat_lit 0xA666⟩, ⟨nat_lit 0xA668, nat_lit 0xA668⟩,
     ⟨nat_lit 0xA66A, nat_lit 0xA66A⟩, ⟨nat_lit 0xA66C, nat_lit 0xA66C⟩,
     ⟨nat_lit 0xA680, nat_lit 0xA680⟩, ⟨nat_lit 0xA682, nat_lit 0xA682⟩,
     ⟨nat_lit 0xA684, nat_lit 0xA684⟩, ⟨nat_lit 0xA686, nat_lit 0xA686⟩,
     ⟨nat_lit 0xA688, nat_lit 0xA688⟩, ⟨nat_lit 0xA68A, nat_lit 0xA68A⟩,
     ⟨nat_lit 0xA68C, nat_lit 0xA68C⟩, ⟨nat_lit 0xA68E, nat_lit 0xA68E⟩,
     ⟨nat_lit 0xA690, nat_lit 0xA690⟩, ⟨nat_lit 0xA692, nat_lit 0xA692⟩,
     ⟨nat_lit 0xA694, nat_lit 0xA694⟩, ⟨nat_lit 0xA696, nat_lit 0xA696⟩,
     ⟨nat_lit 0xA698, nat_lit 0xA698⟩, ⟨nat_lit 0xA69A, nat_lit 0xA69A⟩,
     ⟨nat_lit 0xA722, nat_lit 0xA722⟩, ⟨nat_lit 0xA724, nat_lit 0xA724⟩,
     ⟨nat_lit 0xA726, nat_lit 0xA726⟩, ⟨nat_lit 0xA728, nat_lit 0xA728⟩,
     ⟨nat_lit 0xA72A, nat_lit 0xA72A⟩, ⟨nat_lit 0xA72C, nat_lit 0xA72C⟩,
     ⟨nat_lit 0xA72E, nat_lit 0xA72E⟩, ⟨nat_lit 0xA732, nat_lit 0xA732⟩,
     ⟨nat_lit 0xA734, nat_lit 0xA734⟩, ⟨nat_lit 0xA736, nat_lit 0xA736⟩,
     ⟨nat_lit 0xA738, nat_lit 0xA738⟩, ⟨nat_lit 0xA73A, nat_lit 0xA73A⟩,
     ⟨nat_lit 0xA73C, nat_lit 0xA73C⟩, ⟨nat_lit 0xA73E, nat_lit 0xA73E⟩,
     ⟨nat_lit 0xA740, nat_lit 0xA740⟩, ⟨nat_lit 0xA742, nat_lit 0xA742⟩,
     ⟨nat_lit 0xA744, nat_lit 0xA744⟩, ⟨nat_lit 0xA746, nat_lit 0xA746⟩,
     ⟨nat_lit 0xA748, nat_lit 0xA748⟩, ⟨nat_lit 0xA74A, nat_lit 0xA74A⟩,
     ⟨nat_lit 0xA74C, nat_lit 0xA74C⟩, ⟨nat_lit 0xA74E, nat_lit 0xA74E⟩,
     ⟨nat_lit 0xA750, nat_lit 0xA750⟩, ⟨nat_lit 0xA752, nat_lit 0xA752⟩,
     ⟨nat_lit 0xA754, nat_lit 0xA754⟩, ⟨nat_lit 0xA756, nat_lit 0xA756⟩,
     ⟨nat_lit 0xA758, nat_lit 0xA758⟩, ⟨nat_lit 0xA75A, nat_lit 0xA75A⟩,
     ⟨nat_lit 0xA75C, nat_lit 0xA75C⟩, ⟨nat_lit 0xA75E, nat_lit 0xA75E⟩,
     ⟨nat_lit 0xA760, nat_lit 0xA760⟩, ⟨nat_lit 0xA762, nat_lit 0xA762⟩,
     ⟨nat_lit 0xA764, nat_lit 0xA764⟩, ⟨nat_lit 0xA766, nat_lit 0xA766⟩,
     ⟨nat_lit 0xA768, nat_lit 0xA768⟩, ⟨nat_lit 0xA76A, nat_lit 0xA76A⟩,
     ⟨nat_lit 0xA76C, nat_lit 0xA76C⟩, ⟨nat_lit 0xA76E, nat_lit 0xA76E⟩,
     ⟨nat_lit 0xA779, nat_lit 0xA779⟩, ⟨nat_lit 0xA77B, nat_lit 0xA77B⟩,
     ⟨nat_lit 0xA77D, nat_lit 0xA77E⟩, ⟨nat_lit 0xA780, nat_lit 0xA780⟩,
     ⟨nat_lit 0xA782, nat_lit 0xA782⟩, ⟨nat_lit 0xA784, nat_lit 0xA784⟩,
     ⟨nat_lit 0xA786, nat_lit 0xA786⟩, ⟨nat_lit 0xA78B, nat_lit 0xA78B⟩,
     ⟨nat_lit 0xA78D, nat_lit 0xA78D⟩, ⟨nat_lit 0xA790, nat_lit 0xA790⟩,
     ⟨nat_lit 0xA792, nat_lit 0xA792⟩, ⟨nat_lit 0xA796, nat_lit 0xA796⟩,
     ⟨nat_lit 0xA798, nat_lit 0xA798⟩, ⟨nat_lit 0xA79A, nat_lit 0xA79A⟩,
     ⟨nat_lit 0xA79C, nat_lit 0xA79C⟩, ⟨nat_lit 0xA79E, nat_lit 0xA79E⟩,
     ⟨nat_lit 0xA7A0, nat_lit 0xA7A0⟩, ⟨nat_lit 0xA7A2, nat_lit 0xA7A2⟩,
     ⟨nat_lit 0xA7A4, nat_lit 0xA7A4⟩, ⟨nat_lit 0xA7A6, nat_lit 0xA7A6⟩,
     ⟨nat_lit 0xA7A8, nat_lit 0xA7A8⟩, ⟨nat_lit 0xA7AA, nat_lit 0xA7AE⟩,
     ⟨nat_lit 0xA7B0, nat_lit 0xA7B4⟩, ⟨nat_lit 0xA7B6, nat_lit 0xA7B6⟩,
     ⟨nat_lit 0xA7B8, nat_lit 0xA7B8⟩, ⟨nat_lit 0xA7BA, nat_lit 0xA7BA⟩,
     ⟨nat_lit 0xA7BC, nat_lit 0xA7BC⟩, ⟨nat_lit 0xA7BE, nat_lit 0xA7BE⟩,
     ⟨nat_lit 0xA7C0, nat_lit 0xA7C0⟩, ⟨nat_lit 0xA7C2, nat_lit 0xA7C2⟩,
     ⟨nat_lit 0xA7C4, nat_lit 0xA7C7⟩, ⟨nat_lit 0xA7C9, nat_lit 0xA7C9⟩,
     ⟨nat_lit 0xA7CB, nat_lit 0xA7CC⟩, ⟨nat_lit 0xA7D0, nat_lit 0xA7D0⟩,
     ⟨nat_lit 0xA7D6, nat_lit 0xA7D6⟩, ⟨nat_lit 0xA7D8, nat_lit 0xA7D8⟩,
     ⟨nat_lit 0xA7DA, nat_lit 0xA7DA⟩, ⟨nat_lit 0xA7DC, nat_lit 0xA7DC⟩,
     ⟨nat_lit 0xA7F5, nat_lit 0xA7F5⟩, ⟨nat_lit 0xFF21, nat_lit 0xFF3A⟩,
     ⟨nat_lit 0x10400, nat_lit 0x10427⟩, ⟨nat_lit 0x104B0, nat_lit 0x104D3⟩,
     ⟨nat_lit 0x10570, nat_lit 0x1057A⟩, ⟨nat_lit 0x1057C, nat_lit 0x1058A⟩,
     ⟨nat_lit 0x1058C, nat_lit 0x10592⟩, ⟨nat_lit 0x10594, nat_lit 0x10595⟩,
     ⟨nat_lit 0x10C80, nat_lit 0x10CB2⟩, ⟨nat_lit 0x10D50, nat_lit 0x10D65⟩,
     ⟨nat_lit 0x118A0, nat_lit 0x118BF⟩, ⟨nat_lit 0x16E40, nat_lit 0x16E5F⟩,
     ⟨nat_lit 0x1E900, nat_lit 0x1E921⟩]),
  ("Changes_When_Titlecased",
    [⟨nat_lit 0x61, nat_lit 0x7A⟩, ⟨nat_lit 0xB5, nat_lit 0xB5⟩, ⟨nat_lit 0xDF, nat_lit 0xF6⟩,
     ⟨nat_lit 0xF8, nat_lit 0xFF⟩, ⟨nat_lit 0x101, nat_lit 0x101⟩, ⟨nat_lit 0x103, nat_lit 0x103⟩,
     ⟨nat_lit 0x105, nat_lit 0x105⟩, ⟨nat_lit 0x107, nat_lit 0x107⟩,
     ⟨nat_lit 0x109, nat_lit 0x109⟩, ⟨nat_lit 0x10B, nat_lit 0x10B⟩,
     ⟨nat_lit 0x10D, nat_lit 0x10D⟩, ⟨nat_lit 0x10F, nat_lit 0x10F⟩,
     ⟨nat_lit 0x111, nat_lit 0x111⟩, ⟨nat_lit 0x113, nat_lit 0x113⟩,
     ⟨nat_lit 0x115, nat_lit 0x115⟩, ⟨nat_lit 0x117, nat_lit 0x117⟩,
     ⟨nat_lit 0x119, nat_lit 0x119⟩, ⟨nat_lit 0x11B, nat_lit 0x11B⟩,
     ⟨nat_lit 0x11D, nat_lit 0x11D⟩, ⟨nat_lit 0x11F, nat_lit 0x11F⟩,
     ⟨nat_lit 0x121, nat_lit 0x121⟩, ⟨nat_lit 0x123, nat_lit 0x123⟩,
     ⟨nat_lit 0x125, nat_lit 0x125⟩, ⟨nat_lit 0x127, nat_lit 0x127⟩,
     ⟨nat_lit 0x129, nat_lit 0x129⟩, ⟨nat_lit 0x12B, nat_lit 0x12B⟩,
     ⟨nat_lit 0x12D, nat_lit 0x12D⟩, ⟨nat_lit 0x12F, nat_lit 0x12F⟩,
     ⟨nat_lit 0x131, nat_lit 0x131⟩, ⟨nat_lit 0x133, nat_lit 0x133⟩,
     ⟨nat_lit 0x135, nat_lit 0x135⟩, ⟨nat_lit 0x137, nat_lit 0x137⟩,
     ⟨nat_lit 0x13A, nat_lit 0x13A⟩, ⟨nat_lit 0x13C, nat_lit 0x13C⟩,
     ⟨nat_lit 0x13E, nat_lit 0x13E⟩, ⟨nat_lit 0x140, nat_lit 0x140⟩,
     ⟨nat_lit 0x142, nat_lit 0x142⟩, ⟨nat_lit 0x144, nat_lit 0x144⟩,
     ⟨nat_lit 0x146, nat_lit 0x146⟩, ⟨nat_lit 0x148, nat_lit 0x149⟩,
     ⟨nat_lit 0x14B, nat_lit 0x14B⟩, ⟨nat_lit 0x14D, nat_lit 0x14D⟩,
     ⟨nat_lit 0x14F, nat_lit 0x14F⟩, ⟨nat_lit 0x151, nat_lit 0x151⟩,
     ⟨nat_lit 0x153, nat_lit 0x153⟩, ⟨nat_lit 0x155, nat_lit 0x155⟩,
     ⟨nat_lit 0x157, nat_lit 0x157⟩, ⟨nat_lit 0x159, nat_lit 0x159⟩,
     ⟨nat_lit 0x15B, nat_lit 0x15B⟩, ⟨nat_lit 0x15D, nat_lit 0x15D⟩,
     ⟨nat_lit 0x15F, nat_lit 0x15F⟩, ⟨nat_lit 0x161, nat_lit 0x161⟩,
     ⟨nat_lit 0x163, nat_lit 0x163⟩, ⟨nat_lit 0x165, nat_lit 0x165⟩,
     ⟨nat_lit 0x167, nat_lit 0x167⟩, ⟨nat_lit 0x169, nat_lit 0x169⟩,
     ⟨nat_lit 0x16B, nat_lit 0x16B⟩, ⟨nat_lit 0x16D, nat_lit 0x16D⟩,
     ⟨nat_lit 0x16F, nat_lit 0x16F⟩, ⟨nat_lit 0x171, nat_lit 0x171⟩,
     ⟨nat_lit 0x173, nat_lit 0x173⟩, ⟨nat_lit 0x175, nat_lit 0x175⟩,
     ⟨nat_lit 0x177, nat_lit 0x177⟩, ⟨nat_lit 0x17A, nat_lit 0x17A⟩,
     ⟨nat_lit 0x17C, nat_lit 0x17C⟩, ⟨nat_lit 0x17E, nat_lit 0x180⟩,
     ⟨nat_lit 0x183, nat_lit 0x183⟩, ⟨nat_lit 0x185, nat_lit 0x185⟩,
     ⟨nat_lit 0x188, nat_lit 0x188⟩, ⟨nat_lit 0x18C, nat_lit 0x18C⟩,
     ⟨nat_lit 0x192, nat_lit 0x192⟩, ⟨nat_lit 0x195, nat_lit 0x195⟩,
     ⟨nat_lit 0x199, nat_lit 0x19B⟩, ⟨nat_lit 0x19E, nat_lit 0x19E⟩,
     ⟨nat_lit 0x1A1, nat_lit 0x1A1⟩, ⟨nat_lit 0x1A3, nat_lit 0x1A3⟩,
     ⟨nat_lit 0x1A5, nat_lit 0x1A5⟩, ⟨nat_lit 0x1A8, nat_lit 0x1A8⟩,
     ⟨nat_lit 0x1AD, nat_lit 0x1AD⟩, ⟨nat_lit 0x1B0, nat_lit 0x1B0⟩,
     ⟨nat_lit 0x1B4, nat_lit 0x1B4⟩, ⟨nat_lit 0x1B6, nat_lit 0x1B6⟩,
     ⟨nat_lit 0x1B9, nat_lit 0x1B9⟩, ⟨nat_lit 0x1BD, nat_lit 0x1BD⟩,
     ⟨nat_lit 0x1BF, nat_lit 0x1BF⟩, ⟨nat_lit 0x1C4, nat_lit 0x1C4⟩,
     ⟨nat_lit 0x1C6, nat_lit 0x1C7⟩, ⟨nat_lit 0x1C9, nat_lit 0x1CA⟩,
     ⟨nat_lit 0x1CC, nat_lit 0x1CC⟩, ⟨nat_lit 0x1CE, nat_lit 0x1CE⟩,
     ⟨nat_lit 0x1D0, nat_lit 0x1D0⟩, ⟨nat_lit 0x1D2, nat_lit 0x1D2⟩,
     ⟨nat_lit 0x1D4, nat_lit 0x1D4⟩, ⟨nat_lit 0x1D6, nat_lit 0x1D6⟩,
     ⟨nat_lit 0x1D8, nat_lit 0x1D8⟩, ⟨nat_lit 0x1DA, nat_lit 0x1DA⟩,
     ⟨nat_lit 0x1DC, nat_lit 0x1DD⟩, ⟨nat_lit 0x1DF, nat_lit 0x1DF⟩,
     ⟨nat_lit 0x1E1, nat_lit 0x1E1⟩, ⟨nat_lit 0x1E3, nat_lit 0x1E3⟩,
     ⟨nat_lit 0x1E5, nat_lit 0x1E5⟩, ⟨nat_lit 0x1E7, nat_lit 0x1E7⟩,
     ⟨nat_lit 0x1E9, nat_lit 0x1E9⟩, ⟨nat_lit 0x1EB, nat_lit 0x1EB⟩,
     ⟨nat_lit 0x1ED, nat_lit 0x1ED⟩, ⟨nat_lit 0x1EF, nat_lit 0x1F1⟩,
     ⟨nat_lit 0x1F3, nat_lit 0x1F3⟩, ⟨nat_lit 0x1F5, nat_lit 0x1F5⟩,
     ⟨nat_lit 0x1F9, nat_lit 0x1F9⟩, ⟨nat_lit 0x1FB, nat_lit 0x1FB⟩,
     ⟨nat_lit 0x1FD, nat_lit 0x1FD⟩, ⟨nat_lit 0x1FF, nat_lit 0x1FF⟩,
     ⟨nat_lit 0x201, nat_lit 0x201⟩, ⟨nat_lit 0x203, nat_lit 0x203⟩,
     ⟨nat_lit 0x205, nat_lit 0x205⟩, ⟨nat_lit 0x207, nat_lit 0x207⟩,
     ⟨nat_lit 0x209, nat_lit 0x209⟩, ⟨nat_lit 0x20B, nat_lit 0x20B⟩,
     ⟨nat_lit 0x20D, nat_lit 0x20D⟩, ⟨nat_lit 0x20F, nat_lit 0x20F⟩,
     ⟨nat_lit 0x211, nat_lit 0x211⟩, ⟨nat_lit 0x213, nat_lit 0x213⟩,
     ⟨nat_lit 0x215, nat_lit 0x215⟩, ⟨nat_lit 0x217, nat_lit 0x217⟩,
     ⟨nat_lit 0x219, nat_lit 0x219⟩, ⟨nat_lit 0x21B, nat_lit 0x21B⟩,
     ⟨nat_lit 0x21D, nat_lit 0x21D⟩, ⟨nat_lit 0x21F, nat_lit 0x21F⟩,
     ⟨nat_lit 0x223, nat_lit 0x223⟩, ⟨nat_lit 0x225, nat_lit 0x225⟩,
     ⟨nat_lit 0x227, nat_lit 0x227⟩, ⟨nat_lit 0x229, nat_lit 0x229⟩,
     ⟨nat_lit 0x22B, nat_lit 0x22B⟩, ⟨nat_lit 0x22D, nat_lit 0x22D⟩,
     ⟨nat_lit 0x22F, nat_lit 0x22F⟩, ⟨nat_lit 0x231, nat_lit 0x231⟩,
     ⟨nat_lit 0x233, nat_lit 0x233⟩, ⟨nat_lit 0x23C, nat_lit 0x23C⟩,
     ⟨nat_lit 0x23F, nat_lit 0x240⟩, ⟨nat_lit 0x242, nat_lit 0x242⟩,
     ⟨nat_lit 0x247, nat_lit 0x247⟩, ⟨nat_lit 0x249, nat_lit 0x249⟩,
     ⟨nat_lit 0x24B, nat_lit 0x24B⟩, ⟨nat_lit 0x24D, nat_lit 0x24D⟩,
     ⟨nat_lit 0x24F, nat_lit 0x254⟩, ⟨nat_lit 0x256, nat_lit 0x257⟩,
     ⟨nat_lit 0x259, nat_lit 0x259⟩, ⟨nat_lit 0x25B, nat_lit 0x25C⟩,
     ⟨nat_lit 0x260, nat_lit 0x261⟩, ⟨nat_lit 0x263, nat_lit 0x266⟩,
     ⟨nat_lit 0x268, nat_lit 0x26C⟩, ⟨nat_lit 0x26F, nat_lit 0x26F⟩,
     ⟨nat_lit 0x271, nat_lit 0x272⟩, ⟨nat_lit 0x275, nat_lit 0x275⟩,
     ⟨nat_lit 0x27D, nat_lit 0x27D⟩, ⟨nat_lit 0x280, nat_lit 0x280⟩,
     ⟨nat_lit 0x282, nat_lit 0x283⟩, ⟨nat_lit 0x287, nat_lit 0x28C⟩,
     ⟨nat_lit 0x292, nat_lit 0x292⟩, ⟨nat_lit 0x29D, nat_lit 0x29E⟩,
     ⟨nat_lit 0x345, nat_lit 0x345⟩, ⟨nat_lit 0x371, nat_lit 0x371⟩,
     ⟨nat_lit 0x373, nat_lit 0x373⟩, ⟨nat_lit 0x377, nat_lit 0x377⟩,
     ⟨nat_lit 0x37B, nat_lit 0x37D⟩, ⟨nat_lit 0x390, nat_lit 0x390⟩,
     ⟨nat_lit 0x3AC, nat_lit 0x3CE⟩, ⟨nat_lit 0x3D0, nat_lit 0x3D1⟩,
     ⟨nat_lit 0x3D5, nat_lit 0x3D7⟩, ⟨nat_lit 0x3D9, nat_lit 0x3D9⟩,
     ⟨nat_lit 0x3DB, nat_lit 0x3DB⟩, ⟨nat_lit 0x3DD, nat_lit 0x3DD⟩,
     ⟨nat_lit 0x3DF, nat_lit 0x3DF⟩, ⟨nat_lit 0x3E1, nat_lit 0x3E1⟩,
     ⟨nat_lit 0x3E3, nat_lit 0x3E3⟩, ⟨nat_lit 0x3E5, nat_lit 0x3E5⟩,
     ⟨nat_lit 0x3E7, nat_lit 0x3E7⟩, ⟨nat_lit 0x3E9, nat_lit 0x3E9⟩,
     ⟨nat_lit 0x3EB, nat_lit 0x3EB⟩, ⟨nat_lit 0x3ED, nat_lit 0x3ED⟩,
     ⟨nat_lit 0x3EF, nat_lit 0x3F3⟩, ⟨nat_lit 0x3F5, nat_lit 0x3F5⟩,
     ⟨nat_lit 0x3F8, nat_lit 0x3F8⟩, ⟨nat_lit 0x3FB, nat_lit 0x3FB⟩,
     ⟨nat_lit 0x430, nat_lit 0x45F⟩, ⟨nat_lit 0x461, nat_lit 0x461⟩,
     ⟨nat_lit 0x463, nat_lit 0x463⟩, ⟨nat_lit 0x465, nat_lit 0x465⟩,
     ⟨nat_lit 0x467, nat_lit 0x467⟩, ⟨nat_lit 0x469, nat_lit 0x469⟩,
     ⟨nat_lit 0x46B, nat_lit 0x46B⟩, ⟨nat_lit 0x46D, nat_lit 0x46D⟩,
     ⟨nat_lit 0x46F, nat_lit 0x46F⟩, ⟨nat_lit 0x471, nat_lit 0x471⟩,
     ⟨nat_lit 0x473, nat_lit 0x473⟩, ⟨nat_lit 0x475, nat_lit 0x475⟩,
     ⟨nat_lit 0x477, nat_lit 0x477⟩, ⟨nat_lit 0x479, nat_lit 0x479⟩,
     ⟨nat_lit 0x47B, nat_lit 0x47B⟩, ⟨nat_lit 0x47D, nat_lit 0x47D⟩,
     ⟨nat_lit 0x47F, nat_lit 0x47F⟩, ⟨nat_lit 0x481, nat_lit 0x481⟩,
     ⟨nat_lit 0x48B, nat_lit 0x48B⟩, ⟨nat_lit 0x48D, nat_lit 0x48D⟩,
     ⟨nat_lit 0x48F, nat_lit 0x48F⟩, ⟨nat_lit 0x491, nat_lit 0x491⟩,
     ⟨nat_lit 0x493, nat_lit 0x493⟩, ⟨nat_lit 0x495, nat_lit 0x495⟩,
     ⟨nat_lit 0x497, nat_lit 0x497⟩, ⟨nat_lit 0x499, nat_lit 0x499⟩,
     ⟨nat_lit 0x49B, nat_lit 0x49B⟩, ⟨nat_lit 0x49D, nat_lit 0x49D⟩,
     ⟨nat_lit 0x49F, nat_lit 0x49F⟩, ⟨nat_lit 0x4A1, nat_lit 0x4A1⟩,
     ⟨nat_lit 0x4A3, nat_lit 0x4A3⟩, ⟨nat_lit 0x4A5, nat_lit 0x4A5⟩,
     ⟨nat_lit 0x4A7, nat_lit 0x4A7⟩, ⟨nat_lit 0x4A9, nat_lit 0x4A9⟩,
     ⟨nat_lit 0x4AB, nat_lit 0x4AB⟩, ⟨nat_lit 0x4AD, nat_lit 0x4AD⟩,
     ⟨nat_lit 0x4AF, nat_lit 0x4AF⟩, ⟨nat_lit 0x4B1, nat_lit 0x4B1⟩,
     ⟨nat_lit 0x4B3, nat_lit 0x4B3⟩, ⟨nat_lit 0x4B5, nat_lit 0x4B5⟩,
     ⟨nat_lit 0x4B7, nat_lit 0x4B7⟩, ⟨nat_lit 0x4B9, nat_lit 0x4B9⟩,
     ⟨nat_lit 0x4BB, nat_lit 0x4BB⟩, ⟨nat_lit 0x4BD, nat_lit 0x4BD⟩,
     ⟨nat_lit 0x4BF, nat_lit 0x4BF⟩, ⟨nat_lit 0x4C2, nat_lit 0x4C2⟩,
     ⟨nat_lit 0x4C4, nat_lit 0x4C4⟩, ⟨nat_lit 0x4C6, nat_lit 0x4C6⟩,
     ⟨nat_lit 0x4C8, nat_lit 0x4C8⟩, ⟨nat_lit 0x4CA, nat_lit 0x4CA⟩,
     ⟨nat_lit 0x4CC, nat_lit 0x4CC⟩, ⟨nat_lit 0x4CE, nat_lit 0x4CF⟩,
     ⟨nat_lit 0x4D1, nat_lit 0x4D1⟩, ⟨nat_lit 0x4D3, nat_lit 0x4D3⟩,
     ⟨nat_lit 0x4D5, nat_lit 0x4D5⟩, ⟨nat_lit 0x4D7, nat_lit 0x4D7⟩,
     ⟨nat_lit 0x4D9, nat_lit 0x4D9⟩, ⟨nat_lit 0x4DB, nat_lit 0x4DB⟩,
     ⟨nat_lit 0x4DD, nat_lit 0x4DD⟩, ⟨nat_lit 0x4DF, nat_lit 0x4DF⟩,
     ⟨nat_lit 0x4E1, nat_lit 0x4E1⟩, ⟨nat_lit 0x4E3, nat_lit 0x4E3⟩,
     ⟨nat_lit 0x4E5, nat_lit 0x4E5⟩, ⟨nat_lit 0x4E7, nat_lit 0x4E7⟩,
     ⟨nat_lit 0x4E9, nat_lit 0x4E9⟩, ⟨nat_lit 0x4EB, nat_lit 0x4EB⟩,
     ⟨nat_lit 0x4ED, nat_lit 0x4ED⟩, ⟨nat_lit 0x4EF, nat_lit 0x4EF⟩,
     ⟨nat_lit 0x4F1, nat_lit 0x4F1⟩, ⟨nat_lit 0x4F3, nat_lit 0x4F3⟩,
     ⟨nat_lit 0x4F5, nat_lit 0x4F5⟩, ⟨nat_lit 0x4F7, nat_lit 0x4F7⟩,
     ⟨nat_lit 0x4F9, nat_lit 0x4F9⟩, ⟨nat_lit 0x4FB, nat_lit 0x4FB⟩,
     ⟨nat_lit 0x4FD, nat_lit 0x4FD⟩, ⟨nat_lit 0x4FF, nat_lit 0x4FF⟩,
     ⟨nat_lit 0x501, nat_lit 0x501⟩, ⟨nat_lit 0x503, nat_lit 0x503⟩,
     ⟨nat_lit 0x505, nat_lit 0x505⟩, ⟨nat_lit 0x507, nat_lit 0x507⟩,
     ⟨nat_lit 0x509, nat_lit 0x509⟩, ⟨nat_lit 0x50B, nat_lit 0x50B⟩,
     ⟨nat_lit 0x50D, nat_lit 0x50D⟩, ⟨nat_lit 0x50F, nat_lit 0x50F⟩,
     ⟨nat_lit 0x511, nat_lit 0x511⟩, ⟨nat_lit 0x513, nat_lit 0x513⟩,
     ⟨nat_lit 0x515, nat_lit 0x515⟩, ⟨nat_lit 0x517, nat_lit 0x517⟩,
     ⟨nat_lit 0x519, nat_lit 0x519⟩, ⟨nat_lit 0x51B, nat_lit 0x51B⟩,
     ⟨nat_lit 0x51D, nat_lit 0x51D⟩, ⟨nat_lit 0x51F, nat_lit 0x51F⟩,
     ⟨nat_lit 0x521, nat_lit 0x521⟩, ⟨nat_lit 0x523, nat_lit 0x523⟩,
     ⟨nat_lit 0x525, nat_lit 0x525⟩, ⟨nat_lit 0x527, nat_lit 0x527⟩,
     ⟨nat_lit 0x529, nat_lit 0x529⟩, ⟨nat_lit 0x52B, nat_lit 0x52B⟩,
     ⟨nat_lit 0x52D, nat_lit 0x52D⟩, ⟨nat_lit 0x52F, nat_lit 0x52F⟩,
     ⟨nat_lit 0x561, nat_lit 0x587⟩, ⟨nat_lit 0x13F8, nat_lit 0x13FD⟩,
     ⟨nat_lit 0x1C80, nat_lit 0x1C88⟩, ⟨nat_lit 0x1C8A, nat_lit 0x1C8A⟩,
     ⟨nat_lit 0x1D79, nat_lit 0x1D79⟩, ⟨nat_lit 0x1D7D, nat_lit 0x1D7D⟩,
     ⟨nat_lit 0x1D8E, nat_lit 0x1D8E⟩, ⟨nat_lit 0x1E01, nat_lit 0x1E01⟩,
     ⟨nat_lit 0x1E03, nat_lit 0x1E03⟩, ⟨nat_lit 0x1E05, nat_lit 0x1E05⟩,
     ⟨nat_lit 0x1E07, nat_lit 0x1E07⟩, ⟨nat_lit 0x1E09, nat_lit 0x1E09⟩,
     ⟨nat_lit 0x1E0B, nat_lit 0x1E0B⟩, ⟨nat_lit 0x1E0D, nat_lit 0x1E0D⟩,
     ⟨nat_lit 0x1E0F, nat_lit 0x1E0F⟩, ⟨nat_lit 0x1E11, nat_lit 0x1E11⟩,
     ⟨nat_lit 0x1E13, nat_lit 0x1E13⟩, ⟨nat_lit 0x1E15, nat_lit 0x1E15⟩,
     ⟨nat_lit 0x1E17, nat_lit 0x1E17⟩, ⟨nat_lit 0x1E19, nat_lit 0x1E19⟩,
     ⟨nat_lit 0x1E1B, nat_lit 0x1E1B⟩, ⟨nat_lit 0x1E1D, nat_lit 0x1E1D⟩,
     ⟨nat_lit 0x1E1F, nat_lit 0x1E1F⟩, ⟨nat_lit 0x1E21, nat_lit 0x1E21⟩,
     ⟨nat_lit 0x1E23, nat_lit 0x1E23⟩, ⟨nat_lit 0x1E25, nat_lit 0x1E25⟩,
     ⟨nat_lit 0x1E27, nat_lit 0x1E27⟩, ⟨nat_lit 0x1E29, nat_lit 0x1E29⟩,
     ⟨nat_lit 0x1E2B, nat_lit 0x1E2B⟩, ⟨nat_lit 0x1E2D, nat_lit 0x1E2D⟩,
     ⟨nat_lit 0x1E2F, nat_lit 0x1E2F⟩, ⟨nat_lit 0x1E31, nat_lit 0x1E31⟩,
     ⟨nat_lit 0x1E33, nat_lit 0x1E33⟩, ⟨nat_lit 0x1E35, nat_lit 0x1E35⟩,
     ⟨nat_lit 0x1E37, nat_lit 0x1E37⟩, ⟨nat_lit 0x1E39, nat_lit 0x1E39⟩,
     ⟨nat_lit 0x1E3B, nat_lit 0x1E3B⟩, ⟨nat_lit 0x1E3D, nat_lit 0x1E3D⟩,
     ⟨nat_lit 0x1E3F, nat_lit 0x1E3F⟩, ⟨nat_lit 0x1E41, nat_lit 0x1E41⟩,
     ⟨nat_lit 0x1E43, nat_lit 0x1E43⟩, ⟨nat_lit 0x1E45, nat_lit 0x1E45⟩,
     ⟨nat_lit 0x1E47, nat_lit 0x1E47⟩, ⟨nat_lit 0x1E49, nat_lit 0x1E49⟩,
     ⟨nat_lit 0x1E4B, nat_lit 0x1E4B⟩, ⟨nat_lit 0x1E4D, nat_lit 0x1E4D⟩,
     ⟨nat_lit 0x1E4F, nat_lit 0x1E4F⟩, ⟨nat_lit 0x1E51, nat_lit 0x1E51⟩,
     ⟨nat_lit 0x1E53, nat_lit 0x1E53⟩, ⟨nat_lit 0x1E55, nat_lit 0x1E55⟩,
     ⟨nat_lit 0x1E57, nat_lit 0x1E57⟩, ⟨nat_lit 0x1E59, nat_lit 0x1E59⟩,
     ⟨nat_lit 0x1E5B, nat_lit 0x1E5B⟩, ⟨nat_lit 0x1E5D, nat_lit 0x1E5D⟩,
     ⟨nat_lit 0x1E5F, nat_lit 0x1E5F⟩, ⟨nat_lit 0x1E61, nat_lit 0x1E61⟩,
     ⟨nat_lit 0x1E63, nat_lit 0x1E63⟩, ⟨nat_lit 0x1E65, nat_lit 0x1E65⟩,
     ⟨nat_lit 0x1E67, nat_lit 0x1E67⟩, ⟨nat_lit 0x1E69, nat_lit 0x1E69⟩,
     ⟨nat_lit 0x1E6B, nat_lit 0x1E6B⟩, ⟨nat_lit 0x1E6D, nat_lit 0x1E6D⟩,
     ⟨nat_lit 0x1E6F, nat_lit 0x1E6F⟩, ⟨nat_lit 0x1E71, nat_lit 0x1E71⟩,
     ⟨nat_lit 0x1E73, nat_lit 0x1E73⟩, ⟨nat_lit 0x1E75, nat_lit 0x1E75⟩,
     ⟨nat_lit 0x1E77, nat_lit 0x1E77⟩, ⟨nat_lit 0x1E79, nat_lit 0x1E79⟩,
     ⟨nat_lit 0x1E7B, nat_lit 0x1E7B⟩, ⟨nat_lit 0x1E7D, nat_lit 0x1E7D⟩,
     ⟨nat_lit 0x1E7F, nat_lit 0x1E7F⟩, ⟨nat_lit 0x1E81, nat_lit 0x1E81⟩,
     ⟨nat_lit 0x1E83, nat_lit 0x1E83⟩, ⟨nat_lit 0x1E85, nat_lit 0x1E85⟩,
     ⟨nat_lit 0x1E87, nat_lit 0x1E87⟩, ⟨nat_lit 0x1E89, nat_lit 0x1E89⟩,
     ⟨nat_lit 0x1E8B, nat_lit 0x1E8B⟩, ⟨nat_lit 0x1E8D, nat_lit 0x1E8D⟩,
     ⟨nat_lit 0x1E8F, nat_lit 0x1E8F⟩, ⟨nat_lit 0x1E91, nat_lit 0x1E91⟩,
     ⟨nat_lit 0x1E93, nat_lit 0x1E93⟩, ⟨nat_lit 0x1E95, nat_lit 0x1E9B⟩,
     ⟨nat_lit 0x1EA1, nat_lit 0x1EA1⟩, ⟨nat_lit 0x1EA3, nat_lit 0x1EA3⟩,
     ⟨nat_lit 0x1EA5, nat_lit 0x1EA5⟩, ⟨nat_lit 0x1EA7, nat_lit 0x1EA7⟩,
     ⟨nat_lit 0x1EA9, nat_lit 0x1EA9⟩, ⟨nat_lit 0x1EAB, nat_lit 0x1EAB⟩,
     ⟨nat_lit 0x1EAD, nat_lit 0x1EAD⟩, ⟨nat_lit 0x1EAF, nat_lit 0x1EAF⟩,
     ⟨nat_lit 0x1EB1, nat_lit 0x1EB1⟩, ⟨nat_lit 0x1EB3, nat_lit 0x1EB3⟩,
     ⟨nat_lit 0x1EB5, nat_lit 0x1EB5⟩, ⟨nat_lit 0x1EB7, nat_lit 0x1EB7⟩,
     ⟨nat_lit 0x1EB9, nat_lit 0x1EB9⟩, ⟨nat_lit 0x1EBB, nat_lit 0x1EBB⟩,
     ⟨nat_lit 0x1EBD, nat_lit 0x1EBD⟩, ⟨nat_lit 0x1EBF, nat_lit 0x1EBF⟩,
     ⟨nat_lit 0x1EC1, nat_lit 0x1EC1⟩, ⟨nat_lit 0x1EC3, nat_lit 0x1EC3⟩,
     ⟨nat_lit 0x1EC5, nat_lit 0x1EC5⟩, ⟨nat_lit 0x1EC7, nat_lit 0x1EC7⟩,
     ⟨nat_lit 0x1EC9, nat_lit 0x1EC9⟩, ⟨nat_lit 0x1ECB, nat_lit 0x1ECB⟩,
     ⟨nat_lit 0x1ECD, nat_lit 0x1ECD⟩, ⟨nat_lit 0x1ECF, nat_lit 0x1ECF⟩,
     ⟨nat_lit 0x1ED1, nat_lit 0x1ED1⟩, ⟨nat_lit 0x1ED3, nat_lit 0x1ED3⟩,
     ⟨nat_lit 0x1ED5, nat_lit 0x1ED5⟩, ⟨nat_lit 0x1ED7, nat_lit 0x1ED7⟩,
     ⟨nat_lit 0x1ED9, nat_lit 0x1ED9⟩, ⟨nat_lit 0x1EDB, nat_lit 0x1EDB⟩,
     ⟨nat_lit 0x1EDD, nat_lit 0x1EDD⟩, ⟨nat_lit 0x1EDF, nat_lit 0x1EDF⟩,
     ⟨nat_lit 0x1EE1, nat_lit 0x1EE1⟩, ⟨nat_lit 0x1EE3, nat_lit 0x1EE3⟩,
     ⟨nat_lit 0x1EE5, nat_lit 0x1EE5⟩, ⟨nat_lit 0x1EE7, nat_lit 0x1EE7⟩,
     ⟨nat_lit 0x1EE9, nat_lit 0x1EE9⟩, ⟨nat_lit 0x1EEB, nat_lit 0x1EEB⟩,
     ⟨nat_lit 0x1EED, nat_lit 0x1EED⟩, ⟨nat_lit 0x1EEF, nat_lit 0x1EEF⟩,
     ⟨nat_lit 0x1EF1, nat_lit 0x1EF1⟩, ⟨nat_lit 0x1EF3, nat_lit 0x1EF3⟩,
     ⟨nat_lit 0x1EF5, nat_lit 0x1EF5⟩, ⟨nat_lit 0x1EF7, nat_lit 0x1EF7⟩,
     ⟨nat_lit 0x1EF9, nat_lit 0x1EF9⟩, ⟨nat_lit 0x1EFB, nat_lit 0x1EFB⟩,
     ⟨nat_lit 0x1EFD, nat_lit 0x1EFD⟩, ⟨nat_lit 0x1EFF, nat_lit 0x1F07⟩,
     ⟨nat_lit 0x1F10, nat_lit 0x1F15⟩, ⟨nat_lit 0x1F20, nat_lit 0x1F27⟩,
     ⟨nat_lit 0x1F30, nat_lit 0x1F37⟩, ⟨nat_lit 0x1F40, nat_lit 0x1F45⟩,
     ⟨nat_lit 0x1F50, nat_lit 0x1F57⟩, ⟨nat_lit 0x1F60, nat_lit 0x1F67⟩,
     ⟨nat_lit 0x1F70, nat_lit 0x1F7D⟩, ⟨nat_lit 0x1F80, nat_lit 0x1F87⟩,
     ⟨nat_lit 0x1F90, nat_lit 0x1F97⟩, ⟨nat_lit 0x1FA0, nat_lit 0x1FA7⟩,
     ⟨nat_lit 0x1FB0, nat_lit 0x1FB4⟩, ⟨nat_lit 0x1FB6, nat_lit 0x1FB7⟩,
     ⟨nat_lit 0x1FBE, nat_lit 0x1FBE⟩, ⟨nat_lit 0x1FC2, nat_lit 0x1FC4⟩,
     ⟨nat_lit 0x1FC6, nat_lit 0x1FC7⟩, ⟨nat_lit 0x1FD0, nat_lit 0x1FD3⟩,
     ⟨nat_lit 0x1FD6, nat_lit 0x1FD7⟩, ⟨nat_lit 0x1FE0, nat_lit 0x1FE7⟩,
     ⟨nat_lit 0x1FF2, nat_lit 0x1FF4⟩, ⟨nat_lit 0x1FF6, nat_lit 0x1FF7⟩,
     ⟨nat_lit 0x214E, nat_lit 0x214E⟩, ⟨nat_lit 0x2170, nat_lit 0x217F⟩,
     ⟨nat_lit 0x2184, nat_lit 0x2184⟩, ⟨nat_lit 0x24D0, nat_lit 0x24E9⟩,
     ⟨nat_lit 0x2C30, nat_lit 0x2C5F⟩, ⟨nat_lit 0x2C61, nat_lit 0x2C61⟩,
     ⟨nat_lit 0x2C65, nat_lit 0x2C66⟩, ⟨nat_lit 0x2C68, nat_lit 0x2C68⟩,
     ⟨nat_lit 0x2C6A, nat_lit 0x2C6A⟩, ⟨nat_lit 0x2C6C, nat_lit 0x2C6C⟩,
     ⟨nat_lit 0x2C73, nat_lit 0x2C73⟩, ⟨nat_lit 0x2C76, nat_lit 0x2C76⟩,
     ⟨nat_lit 0x2C81, nat_lit 0x2C81⟩, ⟨nat_lit 0x2C83, nat_lit 0x2C83⟩,
     ⟨nat_lit 0x2C85, nat_lit 0x2C85⟩, ⟨nat_lit 0x2C87, nat_lit 0x2C87⟩,
     ⟨nat_lit 0x2C89, nat_lit 0x2C89⟩, ⟨nat_lit 0x2C8B, nat_lit 0x2C8B⟩,
     ⟨nat_lit 0x2C8D, nat_lit 0x2C8D⟩, ⟨nat_lit 0x2C8F, nat_lit 0x2C8F⟩,
     ⟨nat_lit 0x2C91, nat_lit 0x2C91⟩, ⟨nat_lit 0x2C93, nat_lit 0x2C93⟩,
     ⟨nat_lit 0x2C95, nat_lit 0x2C95⟩, ⟨nat_lit 0x2C97, nat_lit 0x2C97⟩,
     ⟨nat_lit 0x2C99, nat_lit 0x2C99⟩, ⟨nat_lit 0x2C9B, nat_lit 0x2C9B⟩,
     ⟨nat_lit 0x2C9D, nat_lit 0x2C9D⟩, ⟨nat_lit 0x2C9F, nat_lit 0x2C9F⟩,
     ⟨nat_lit 0x2CA1, nat_lit 0x2CA1⟩, ⟨nat_lit 0x2CA3, nat_lit 0x2CA3⟩,
     ⟨nat_lit 0x2CA5, nat_lit 0x2CA5⟩, ⟨nat_lit 0x2CA7, nat_lit 0x2CA7⟩,
     ⟨nat_lit 0x2CA9, nat_lit 0x2CA9⟩, ⟨nat_lit 0x2CAB, nat_lit 0x2CAB⟩,
     ⟨nat_lit 0x2CAD, nat_lit 0x2CAD⟩, ⟨nat_lit 0x2CAF, nat_lit 0x2CAF⟩,
     ⟨nat_lit 0x2CB1, nat_lit 0x2CB1⟩, ⟨nat_lit 0x2CB3, nat_lit 0x2CB3⟩,
     ⟨nat_lit 0x2CB5, nat_lit 0x2CB5⟩, ⟨nat_lit 0x2CB7, nat_lit 0x2CB7⟩,
     ⟨nat_lit 0x2CB9, nat_lit 0x2CB9⟩, ⟨nat_lit 0x2CBB, nat_lit 0x2CBB⟩,
     ⟨nat_lit 0x2CBD, nat_lit 0x2CBD⟩, ⟨nat_lit 0x2CBF, nat_lit 0x2CBF⟩,
     ⟨nat_lit 0x2CC1, nat_lit 0x2CC1⟩, ⟨nat_lit 0x2CC3, nat_lit 0x2CC3⟩,
     ⟨nat_lit 0x2CC5, nat_lit 0x2CC5⟩, ⟨nat_lit 0x2CC7, nat_lit 0x2CC7⟩,
     ⟨nat_lit 0x2CC9, nat_lit 0x2CC9⟩, ⟨nat_lit 0x2CCB, nat_lit 0x2CCB⟩,
     ⟨nat_lit 0x2CCD, nat_lit 0x2CCD⟩, ⟨nat_lit 0x2CCF, nat_lit 0x2CCF⟩,
     ⟨nat_lit 0x2CD1, nat_lit 0x2CD1⟩, ⟨nat_lit 0x2CD3, nat_lit 0x2CD3⟩,
     ⟨nat_lit 0x2CD5, nat_lit 0x2CD5⟩, ⟨nat_lit 0x2CD7, nat_lit 0x2CD7⟩,
     ⟨nat_lit 0x2CD9, nat_lit 0x2CD9⟩, ⟨nat_lit 0x2CDB, nat_lit 0x2CDB⟩,
     ⟨nat_lit 0x2CDD, nat_lit 0x2CDD⟩, ⟨nat_lit 0x2CDF, nat_lit 0x2CDF⟩,
     ⟨nat_lit 0x2CE1, nat_lit 0x2CE1⟩, ⟨nat_lit 0x2CE3, nat_lit 0x2CE3⟩,
     ⟨nat_lit 0x2CEC, nat_lit 0x2CEC⟩, ⟨nat_lit 0x2CEE, nat_lit 0x2CEE⟩,
     ⟨nat_lit 0x2CF3, nat_lit 0x2CF3⟩, ⟨nat_lit 0x2D00, nat_lit 0x2D25⟩,
     ⟨nat_lit 0x2D27, nat_lit 0x2D27⟩, ⟨nat_lit 0x2D2D, nat_lit 0x2D2D⟩,
     ⟨nat_lit 0xA641, nat_lit 0xA641⟩, ⟨nat_lit 0xA643, nat_lit 0xA643⟩,
     ⟨nat_lit 0xA645, nat_lit 0xA645⟩, ⟨nat_lit 0xA647, nat_lit 0xA647⟩,
     ⟨nat_lit 0xA649, nat_lit 0xA649⟩, ⟨nat_lit 0xA64B, nat_lit 0xA64B⟩,
     ⟨nat_lit 0xA64D, nat_lit 0xA64D⟩, ⟨nat_lit 0xA64F, nat_lit 0xA64F⟩,
     ⟨nat_lit 0xA651, nat_lit 0xA651⟩, ⟨nat_lit 0xA653, nat_lit 0xA653⟩,
     ⟨nat_lit 0xA655, nat_lit 0xA655⟩, ⟨nat_lit 0xA657, nat_lit 0xA657⟩,
     ⟨nat_lit 0xA659, nat_lit 0xA659⟩, ⟨nat_lit 0xA65B, nat_lit 0xA65B⟩,
     ⟨nat_lit 0xA65D, nat_lit 0xA65D⟩, ⟨nat_lit 0xA65F, nat_lit 0xA65F⟩,
     ⟨nat_lit 0xA661, nat_lit 0xA661⟩, ⟨nat_lit 0xA663, nat_lit 0xA663⟩,
     ⟨nat_lit 0xA665, nat_lit 0xA665⟩, ⟨nat_lit 0xA667, nat_lit 0xA667⟩,
     ⟨nat_lit 0xA669, nat_lit 0xA669⟩, ⟨nat_lit 0xA66B, nat_lit 0xA66B⟩,
     ⟨nat_lit 0xA66D, nat_lit 0xA66D⟩, ⟨nat_lit 0xA681, nat_lit 0xA681⟩,
     ⟨nat_lit 0xA683, nat_lit 0xA683⟩, ⟨nat_lit 0xA685, nat_lit 0xA685⟩,
     ⟨nat_lit 0xA687, nat_lit 0xA687⟩, ⟨nat_lit 0xA689, nat_lit 0xA689⟩,
     ⟨nat_lit 0xA68B, nat_lit 0xA68B⟩, ⟨nat_lit 0xA68D, nat_lit 0xA68D⟩,
     ⟨nat_lit 0xA68F, nat_lit 0xA68F⟩, ⟨nat_lit 0xA691, nat_lit 0xA691⟩,
     ⟨nat_lit 0xA693, nat_lit 0xA693⟩, ⟨nat_lit 0xA695, nat_lit 0xA695⟩,
     ⟨nat_lit 0xA697, nat_lit 0xA697⟩, ⟨nat_lit 0xA699, nat_lit 0xA699⟩,
     ⟨nat_lit 0xA69B, nat_lit 0xA69B⟩, ⟨nat_lit 0xA723, nat_lit 0xA723⟩,
     ⟨nat_lit 0xA725, nat_lit 0xA725⟩, ⟨nat_lit 0xA727, nat_lit 0xA727⟩,
     ⟨nat_lit 0xA729, nat_lit 0xA729⟩, ⟨nat_lit 0xA72B, nat_lit 0xA72B⟩,
     ⟨nat_lit 0xA72D, nat_lit 0xA72D⟩, ⟨nat_lit 0xA72F, nat_lit 0xA72F⟩,
     ⟨nat_lit 0xA733, nat_lit 0xA733⟩, ⟨nat_lit 0xA735, nat_lit 0xA735⟩,
     ⟨nat_lit 0xA737, nat_lit 0xA737⟩, ⟨nat_lit 0xA739, nat_lit 0xA739⟩,
     ⟨nat_lit 0xA73B, nat_lit 0xA73B⟩, ⟨nat_lit 0xA73D, nat_lit 0xA73D⟩,
     ⟨nat_lit 0xA73F, nat_lit 0xA73F⟩, ⟨nat_lit 0xA741, nat_lit 0xA741⟩,
     ⟨nat_lit 0xA743, nat_lit 0xA743⟩, ⟨nat_lit 0xA745, nat_lit 0xA745⟩,
     ⟨nat_lit 0xA747, nat_lit 0xA747⟩, ⟨nat_lit 0xA749, nat_lit 0xA749⟩,
     ⟨nat_lit 0xA74B, nat_lit 0xA74B⟩, ⟨nat_lit 0xA74D, nat_lit 0xA74D⟩,
     ⟨nat_lit 0xA74F, nat_lit 0xA74F⟩, ⟨nat_lit 0xA751, nat_lit 0xA751⟩,
     ⟨nat_lit 0xA753, nat_lit 0xA753⟩, ⟨nat_lit 0xA755, nat_lit 0xA755⟩,
     ⟨nat_lit 0xA757, nat_lit 0xA757⟩, ⟨nat_lit 0xA759, nat_lit 0xA759⟩,
     ⟨nat_lit 0xA75B, nat_lit 0xA75B⟩, ⟨nat_lit 0xA75D, nat_lit 0xA75D⟩,
     ⟨nat_lit 0xA75F, nat_lit 0xA75F⟩, ⟨nat_lit 0xA761, nat_lit 0xA761⟩,
     ⟨nat_lit 0xA763, nat_lit 0xA763⟩, ⟨nat_lit 0xA765, nat_lit 0xA765⟩,
     ⟨nat_lit 0xA767, nat_lit 0xA767⟩, ⟨nat_lit 0xA769, nat_lit 0xA769⟩,
     ⟨nat_lit 0xA76B, nat_lit 0xA76B⟩, ⟨nat_lit 0xA76D, nat_lit 0xA76D⟩,
     ⟨nat_lit 0xA76F, nat_lit 0xA76F⟩, ⟨nat_lit 0xA77A, nat_lit 0xA77A⟩,
     ⟨nat_lit 0xA77C, nat_lit 0xA77C⟩, ⟨nat_lit 0xA77F, nat_lit 0xA77F⟩,
     ⟨nat_lit 0xA781, nat_lit 0xA781⟩, ⟨nat_lit 0xA783, nat_lit 0xA783⟩,
     ⟨nat_lit 0xA785, nat_lit 0xA785⟩, ⟨nat_lit 0xA787, nat_lit 0xA787⟩,
     ⟨nat_lit 0xA78C, nat_lit 0xA78C⟩, ⟨nat_lit 0xA791, nat_lit 0xA791⟩,
     ⟨nat_lit 0xA793, nat_lit 0xA794⟩, ⟨nat_lit 0xA797, nat_lit 0xA797⟩,
     ⟨nat_lit 0xA799, nat_lit 0xA799⟩, ⟨nat_lit 0xA79B, nat_lit 0xA79B⟩,
     ⟨nat_lit 0xA79D, nat_lit 0xA79D⟩, ⟨nat_lit 0xA79F, nat_lit 0xA79F⟩,
     ⟨nat_lit 0xA7A1, nat_lit 0xA7A1⟩, ⟨nat_lit 0xA7A3, nat_lit 0xA7A3⟩,
     ⟨nat_lit 0xA7A5, nat_lit 0xA7A5⟩, ⟨nat_lit 0xA7A7, nat_lit 0xA7A7⟩,
     ⟨nat_lit 0xA7A9, nat_lit 0xA7A9⟩, ⟨nat_lit 0xA7B5, nat_lit 0xA7B5⟩,
     ⟨nat_lit 0xA7B7, nat_lit 0xA7B7⟩, ⟨nat_lit 0xA7B9, nat_lit 0xA7B9⟩,
     ⟨nat_lit 0xA7BB, nat_lit 0xA7BB⟩, ⟨nat_lit 0xA7BD, nat_lit 0xA7BD⟩,
     ⟨nat_lit 0xA7BF, nat_lit 0xA7BF⟩, ⟨nat_lit 0xA7C1, nat_lit 0xA7C1⟩,
     ⟨nat_lit 0xA7C3, nat_lit 0xA7C3⟩, ⟨nat_lit 0xA7C8, nat_lit 0xA7C8⟩,
     ⟨nat_lit 0xA7CA, nat_lit 0xA7CA⟩, ⟨nat_lit 0xA7CD, nat_lit 0xA7CD⟩,
     ⟨nat_lit 0xA7D1, nat_lit 0xA7D1⟩, ⟨nat_lit 0xA7D7, nat_lit 0xA7D7⟩,
     ⟨nat_lit 0xA7D9, nat_lit 0xA7D9⟩, ⟨nat_lit 0xA7DB, nat_lit 0xA7DB⟩,
     ⟨nat_lit 0xA7F6, nat_lit 0xA7F6⟩, ⟨nat_lit 0xAB53, nat_lit 0xAB53⟩,
     ⟨nat_lit 0xAB70, nat_lit 0xABBF⟩, ⟨nat_lit 0xFB00, nat_lit 0xFB06⟩,
     ⟨nat_lit 0xFB13, nat_lit 0xFB17⟩, ⟨nat_lit 0xFF41, nat_lit 0xFF5A⟩,
     ⟨nat_lit 0x10428, nat_lit 0x1044F⟩, ⟨nat_lit 0x104D8, nat_lit 0x104FB⟩,
     ⟨nat_lit 0x10597, nat_lit 0x105A1⟩, ⟨nat_lit 0x105A3, nat_lit 0x105B1⟩,
     ⟨nat_lit 0x105B3, nat_lit 0x105B9⟩, ⟨nat_lit 0x105BB, nat_lit 0x105BC⟩,
     ⟨nat_lit 0x10CC0, nat_lit 0x10CF2⟩, ⟨nat_lit 0x10D70, nat_lit 0x10D85⟩,
     ⟨nat_lit 0x118C0, nat_lit 0x118DF⟩, ⟨nat_lit 0x16E60, nat_lit 0x16E7F⟩,
     ⟨nat_lit 0x1E922, nat_lit 0x1E943⟩]),
  ("Changes_When_Uppercased",
    [⟨nat_lit 0x61, nat_lit 0x7A⟩, ⟨nat_lit 0xB5, nat_lit 0xB5⟩, ⟨nat_lit 0xDF, nat_lit 0xF6⟩,
     ⟨nat_lit 0xF8, nat_lit 0xFF⟩, ⟨nat_lit 0x101, nat_lit 0x101⟩, ⟨nat_lit 0x103, nat_lit 0x103⟩,
     ⟨nat_lit 0x105, nat_lit 0x105⟩, ⟨nat_lit 0x107, nat_lit 0x107⟩,
     ⟨nat_lit 0x109, nat_lit 0x109⟩, ⟨nat_lit 0x10B, nat_lit 0x10B⟩,
     ⟨nat_lit 0x10D, nat_lit 0x10D⟩, ⟨nat_lit 0x10F, nat_lit 0x10F⟩,
     ⟨nat_lit 0x111, nat_lit 0x111⟩, ⟨nat_lit 0x113, nat_lit 0x113⟩,
     ⟨nat_lit 0x115, nat_lit 0x115⟩, ⟨nat_lit 0x117, nat_lit 0x117⟩,
     ⟨nat_lit 0x119, nat_lit 0x119⟩, ⟨nat_lit 0x11B, nat_lit 0x11B⟩,
     ⟨nat_lit 0x11D, nat_lit 0x11D⟩, ⟨nat_lit 0x11F, nat_lit 0x11F⟩,
     ⟨nat_lit 0x121, nat_lit 0x121⟩, ⟨nat_lit 0x123, nat_lit 0x123⟩,
     ⟨nat_lit 0x125, nat_lit 0x125⟩, ⟨nat_lit 0x127, nat_lit 0x127⟩,
     ⟨nat_lit 0x129, nat_lit 0x129⟩, ⟨nat_lit 0x12B, nat_lit 0x12B⟩,
     ⟨nat_lit 0x12D, nat_lit 0x12D⟩, ⟨nat_lit 0x12F, nat_lit 0x12F⟩,
     ⟨nat_lit 0x131, nat_lit 0x131⟩, ⟨nat_lit 0x133, nat_lit 0x133⟩,
     ⟨nat_lit 0x135, nat_lit 0x135⟩, ⟨nat_lit 0x137, nat_lit 0x137⟩,
     ⟨nat_lit 0x13A, nat_lit 0x13A⟩, ⟨nat_lit 0x13C, nat_lit 0x13C⟩,
     ⟨nat_lit 0x13E, nat_lit 0x13E⟩, ⟨nat_lit 0x140, nat_lit 0x140⟩,
     ⟨nat_lit 0x142, nat_lit 0x142⟩, ⟨nat_lit 0x144, nat_lit 0x144⟩,
     ⟨nat_lit 0x146, nat_lit 0x146⟩, ⟨nat_lit 0x148, nat_lit 0x149⟩,
     ⟨nat_lit 0x14B, nat_lit 0x14B⟩, ⟨nat_lit 0x14D, nat_lit 0x14D⟩,
     ⟨nat_lit 0x14F, nat_lit 0x14F⟩, ⟨nat_lit 0x151, nat_lit 0x151⟩,
     ⟨nat_lit 0x153, nat_lit 0x153⟩, ⟨nat_lit 0x155, nat_lit 0x155⟩,
     ⟨nat_lit 0x157, nat_lit 0x157⟩, ⟨nat_lit 0x159, nat_lit 0x159⟩,
     ⟨nat_lit 0x15B, nat_lit 0x15B⟩, ⟨nat_lit 0x15D, nat_lit 0x15D⟩,
     ⟨nat_lit 0x15F, nat_lit 0x15F⟩, ⟨nat_lit 0x161, nat_lit 0x161⟩,
     ⟨nat_lit 0x163, nat_lit 0x163⟩, ⟨nat_lit 0x165, nat_lit 0x165⟩,
     ⟨nat_lit 0x167, nat_lit 0x167⟩, ⟨nat_lit 0x169, nat_lit 0x169⟩,
     ⟨nat_lit 0x16B, nat_lit 0x16B⟩, ⟨nat_lit 0x16D, nat_lit 0x16D⟩,
     ⟨nat_lit 0x16F, nat_lit 0x16F⟩, ⟨nat_lit 0x171, nat_lit 0x171⟩,
     ⟨nat_lit 0x173, nat_lit 0x173⟩, ⟨nat_lit 0x175, nat_lit 0x175⟩,
     ⟨nat_lit 0x177, nat_lit 0x177⟩, ⟨nat_lit 0x17A, nat_lit 0x17A⟩,
     ⟨nat_lit 0x17C, nat_lit 0x17C⟩, ⟨nat_lit 0x17E, nat_lit 0x180⟩,
     ⟨nat_lit 0x183, nat_lit 0x183⟩, ⟨nat_lit 0x185, nat_lit 0x185⟩,
     ⟨nat_lit 0x188, nat_lit 0x188⟩, ⟨nat_lit 0x18C, nat_lit 0x18C⟩,
     ⟨nat_lit 0x192, nat_lit 0x192⟩, ⟨nat_lit 0x195, nat_lit 0x195⟩,
     ⟨nat_lit 0x199, nat_lit 0x19B⟩, ⟨nat_lit 0x19E, nat_lit 0x19E⟩,
     ⟨nat_lit 0x1A1, nat_lit 0x1A1⟩, ⟨nat_lit 0x1A3, nat_lit 0x1A3⟩,
     ⟨nat_lit 0x1A5, nat_lit 0x1A5⟩, ⟨nat_lit 0x1A8, nat_lit 0x1A8⟩,
     ⟨nat_lit 0x1AD, nat_lit 0x1AD⟩, ⟨nat_lit 0x1B0, nat_lit 0x1B0⟩,
     ⟨nat_lit 0x1B4, nat_lit 0x1B4⟩, ⟨nat_lit 0x1B6, nat_lit 0x1B6⟩,
     ⟨nat_lit 0x1B9, nat_lit 0x1B9⟩, ⟨nat_lit 0x1BD, nat_lit 0x1BD⟩,
     ⟨nat_lit 0x1BF, nat_lit 0x1BF⟩, ⟨nat_lit 0x1C5, nat_lit 0x1C6⟩,
     ⟨nat_lit 0x1C8, nat_lit 0x1C9⟩, ⟨nat_lit 0x1CB, nat_lit 0x1CC⟩,
     ⟨nat_lit 0x1CE, nat_lit 0x1CE⟩, ⟨nat_lit 0x1D0, nat_lit 0x1D0⟩,
     ⟨nat_lit 0x1D2, nat_lit 0x1D2⟩, ⟨nat_lit 0x1D4, nat_lit 0x1D4⟩,
     ⟨nat_lit 0x1D6, nat_lit 0x1D6⟩, ⟨nat_lit 0x1D8, nat_lit 0x1D8⟩,
     ⟨nat_lit 0x1DA, nat_lit 0x1DA⟩, ⟨nat_lit 0x1DC, nat_lit 0x1DD⟩,
     ⟨nat_lit 0x1DF, nat_lit 0x1DF⟩, ⟨nat_lit 0x1E1, nat_lit 0x1E1⟩,
     ⟨nat_lit 0x1E3, nat_lit 0x1E3⟩, ⟨nat_lit 0x1E5, nat_lit 0x1E5⟩,
     ⟨nat_lit 0x1E7, nat_lit 0x1E7⟩, ⟨nat_lit 0x1E9, nat_lit 0x1E9⟩,
     ⟨nat_lit 0x1EB, nat_lit 0x1EB⟩, ⟨nat_lit 0x1ED, nat_lit 0x1ED⟩,
     ⟨nat_lit 0x1EF, nat_lit 0x1F0⟩, ⟨nat_lit 0x1F2, nat_lit 0x1F3⟩,
     ⟨nat_lit 0x1F5, nat_lit 0x1F5⟩, ⟨nat_lit 0x1F9, nat_lit 0x1F9⟩,
     ⟨nat_lit 0x1FB, nat_lit 0x1FB⟩, ⟨nat_lit 0x1FD, nat_lit 0x1FD⟩,
     ⟨nat_lit 0x1FF, nat_lit 0x1FF⟩, ⟨nat_lit 0x201, nat_lit 0x201⟩,
     ⟨nat_lit 0x203, nat_lit 0x203⟩, ⟨nat_lit 0x205, nat_lit 0x205⟩,
     ⟨nat_lit 0x207, nat_lit 0x207⟩, ⟨nat_lit 0x209, nat_lit 0x209⟩,
     ⟨nat_lit 0x20B, nat_lit 0x20B⟩, ⟨nat_lit 0x20D, nat_lit 0x20D⟩,
     ⟨nat_lit 0x20F, nat_lit 0x20F⟩, ⟨nat_lit 0x211, nat_lit 0x211⟩,
     ⟨nat_lit 0x213, nat_lit 0x213⟩, ⟨nat_lit 0x215, nat_lit 0x215⟩,
     ⟨nat_lit 0x217, nat_lit 0x217⟩, ⟨nat_lit 0x219, nat_lit 0x219⟩,
     ⟨nat_lit 0x21B, nat_lit 0x21B⟩, ⟨nat_lit 0x21D, nat_lit 0x21D⟩,
     ⟨nat_lit 0x21F, nat_lit 0x21F⟩, ⟨nat_lit 0x223, nat_lit 0x223⟩,
     ⟨nat_lit 0x225, nat_lit 0x225⟩, ⟨nat_lit 0x227, nat_lit 0x227⟩,
     ⟨nat_lit 0x229, nat_lit 0x229⟩, ⟨nat_lit 0x22B, nat_lit 0x22B⟩,
     ⟨nat_lit 0x22D, nat_lit 0x22D⟩, ⟨nat_lit 0x22F, nat_lit 0x22F⟩,
     ⟨nat_lit 0x231, nat_lit 0x231⟩, ⟨nat_lit 0x233, nat_lit 0x233⟩,
     ⟨nat_lit 0x23C, nat_lit 0x23C⟩, ⟨nat_lit 0x23F, nat_lit 0x240⟩,
     ⟨nat_lit 0x242, nat_lit 0x242⟩, ⟨nat_lit 0x247, nat_lit 0x247⟩,
     ⟨nat_lit 0x249, nat_lit 0x249⟩, ⟨nat_lit 0x24B, nat_lit 0x24B⟩,
     ⟨nat_lit 0x24D, nat_lit 0x24D⟩, ⟨nat_lit 0x24F, nat_lit 0x254⟩,
     ⟨nat_lit 0x256, nat_lit 0x257⟩, ⟨nat_lit 0x259, nat_lit 0x259⟩,
     ⟨nat_lit 0x25B, nat_lit 0x25C⟩, ⟨nat_lit 0x260, nat_lit 0x261⟩,
     ⟨nat_lit 0x263, nat_lit 0x266⟩, ⟨nat_lit 0x268, nat_lit 0x26C⟩,
     ⟨nat_lit 0x26F, nat_lit 0x26F⟩, ⟨nat_lit 0x271, nat_lit 0x272⟩,
     ⟨nat_lit 0x275, nat_lit 0x275⟩, ⟨nat_lit 0x27D, nat_lit 0x27D⟩,
     ⟨nat_lit 0x280, nat_lit 0x280⟩, ⟨nat_lit 0x282, nat_lit 0x283⟩,
     ⟨nat_lit 0x287, nat_lit 0x28C⟩, ⟨nat_lit 0x292, nat_lit 0x292⟩,
     ⟨nat_lit 0x29D, nat_lit 0x29E⟩, ⟨nat_lit 0x345, nat_lit 0x345⟩,
     ⟨nat_lit 0x371, nat_lit 0x371⟩, ⟨nat_lit 0x373, nat_lit 0x373⟩,
     ⟨nat_lit 0x377, nat_lit 0x377⟩, ⟨nat_lit 0x37B, nat_lit 0x37D⟩,
     ⟨nat_lit 0x390, nat_lit 0x390⟩, ⟨nat_lit 0x3AC, nat_lit 0x3CE⟩,
     ⟨nat_lit 0x3D0, nat_lit 0x3D1⟩, ⟨nat_lit 0x3D5, nat_lit 0x3D7⟩,
     ⟨nat_lit 0x3D9, nat_lit 0x3D9⟩, ⟨nat_lit 0x3DB, nat_lit 0x3DB⟩,
     ⟨nat_lit 0x3DD, nat_lit 0x3DD⟩, ⟨nat_lit 0x3DF, nat_lit 0x3DF⟩,
     ⟨nat_lit 0x3E1, nat_lit 0x3E1⟩, ⟨nat_lit 0x3E3, nat_lit 0x3E3⟩,
     ⟨nat_lit 0x3E5, nat_lit 0x3E5⟩, ⟨nat_lit 0x3E7, nat_lit 0x3E7⟩,
     ⟨nat_lit 0x3E9, nat_lit 0x3E9⟩, ⟨nat_lit 0x3EB, nat_lit 0x3EB⟩,
     ⟨nat_lit 0x3ED, nat_lit 0x3ED⟩, ⟨nat_lit 0x3EF, nat_lit 0x3F3⟩,
     ⟨nat_lit 0x3F5, nat_lit 0x3F5⟩, ⟨nat_lit 0x3F8, nat_lit 0x3F8⟩,
     ⟨nat_lit 0x3FB, nat_lit 0x3FB⟩, ⟨nat_lit 0x430, nat_lit 0x45F⟩,
     ⟨nat_lit 0x461, nat_lit 0x461⟩, ⟨nat_lit 0x463, nat_lit 0x463⟩,
     ⟨nat_lit 0x465, nat_lit 0x465⟩, ⟨nat_lit 0x467, nat_lit 0x467⟩,
     ⟨nat_lit 0x469, nat_lit 0x469⟩, ⟨nat_lit 0x46B, nat_lit 0x46B⟩,
     ⟨nat_lit 0x46D, nat_lit 0x46D⟩, ⟨nat_lit 0x46F, nat_lit 0x46F⟩,
     ⟨nat_lit 0x471, nat_lit 0x471⟩, ⟨nat_lit 0x473, nat_lit 0x473⟩,
     ⟨nat_lit 0x475, nat_lit 0x475⟩, ⟨nat_lit 0x477, nat_lit 0x477⟩,
     ⟨nat_lit 0x479, nat_lit 0x479⟩, ⟨nat_lit 0x47B, nat_lit 0x47B⟩,
     ⟨nat_lit 0x47D, nat_lit 0x47D⟩, ⟨nat_lit 0x47F, nat_lit 0x47F⟩,
     ⟨nat_lit 0x481, nat_lit 0x481⟩, ⟨nat_lit 0x48B, nat_lit 0x48B⟩,
     ⟨nat_lit 0x48D, nat_lit 0x48D⟩, ⟨nat_lit 0x48F, nat_lit 0x48F⟩,
     ⟨nat_lit 0x491, nat_lit 0x491⟩, ⟨nat_lit 0x493, nat_lit 0x493⟩,
     ⟨nat_lit 0x495, nat_lit 0x495⟩, ⟨nat_lit 0x497, nat_lit 0x497⟩,
     ⟨nat_lit 0x499, nat_lit 0x499⟩, ⟨nat_lit 0x49B, nat_lit 0x49B⟩,
     ⟨nat_lit 0x49D, nat_lit 0x49D⟩, ⟨nat_lit 0x49F, nat_lit 0x49F⟩,
     ⟨nat_lit 0x4A1, nat_lit 0x4A1⟩, ⟨nat_lit 0x4A3, nat_lit 0x4A3⟩,
     ⟨nat_lit 0x4A5, nat_lit 0x4A5⟩, ⟨nat_lit 0x4A7, nat_lit 0x4A7⟩,
     ⟨nat_lit 0x4A9, nat_lit 0x4A9⟩, ⟨nat_lit 0x4AB, nat_lit 0x4AB⟩,
     ⟨nat_lit 0x4AD, nat_lit 0x4AD⟩, ⟨nat_lit 0x4AF, nat_lit 0x4AF⟩,
     ⟨nat_lit 0x4B1, nat_lit 0x4B1⟩, ⟨nat_lit 0x4B3, nat_lit 0x4B3⟩,
     ⟨nat_lit 0x4B5, nat_lit 0x4B5⟩, ⟨nat_lit 0x4B7, nat_lit 0x4B7⟩,
     ⟨nat_lit 0x4B9, nat_lit 0x4B9⟩, ⟨nat_lit 0x4BB, nat_lit 0x4BB⟩,
     ⟨nat_lit 0x4BD, nat_lit 0x4BD⟩, ⟨nat_lit 0x4BF, nat_lit 0x4BF⟩,
     ⟨nat_lit 0x4C2, nat_lit 0x4C2⟩, ⟨nat_lit 0x4C4, nat_lit 0x4C4⟩,
     ⟨nat_lit 0x4C6, nat_lit 0x4C6⟩, ⟨nat_lit 0x4C8, nat_lit 0x4C8⟩,
     ⟨nat_lit 0x4CA, nat_lit 0x4CA⟩, ⟨nat_lit 0x4CC, nat_lit 0x4CC⟩,
     ⟨nat_lit 0x4CE, nat_lit 0x4CF⟩, ⟨nat_lit 0x4D1, nat_lit 0x4D1⟩,
     ⟨nat_lit 0x4D3, nat_lit 0x4D3⟩, ⟨nat_lit 0x4D5, nat_lit 0x4D5⟩,
     ⟨nat_lit 0x4D7, nat_lit 0x4D7⟩, ⟨nat_lit 0x4D9, nat_lit 0x4D9⟩,
     ⟨nat_lit 0x4DB, nat_lit 0x4DB⟩, ⟨nat_lit 0x4DD, nat_lit 0x4DD⟩,
     ⟨nat_lit 0x4DF, nat_lit 0x4DF⟩, ⟨nat_lit 0x4E1, nat_lit 0x4E1⟩,
     ⟨nat_lit 0x4E3, nat_lit 0x4E3⟩, ⟨nat_lit 0x4E5, nat_lit 0x4E5⟩,
     ⟨nat_lit 0x4E7, nat_lit 0x4E7⟩, ⟨nat_lit 0x4E9, nat_lit 0x4E9⟩,
     ⟨nat_lit 0x4EB, nat_lit 0x4EB⟩, ⟨nat_lit 0x4ED, nat_lit 0x4ED⟩,
     ⟨nat_lit 0x4EF, nat_lit 0x4EF⟩, ⟨nat_lit 0x4F1, nat_lit 0x4F1⟩,
     ⟨nat_lit 0x4F3, nat_lit 0x4F3⟩, ⟨nat_lit 0x4F5, nat_lit 0x4F5⟩,
     ⟨nat_lit 0x4F7, nat_lit 0x4F7⟩, ⟨nat_lit 0x4F9, nat_lit 0x4F9⟩,
     ⟨nat_lit 0x4FB, nat_lit 0x4FB⟩, ⟨nat_lit 0x4FD, nat_lit 0x4FD⟩,
     ⟨nat_lit 0x4FF, nat_lit 0x4FF⟩, ⟨nat_lit 0x501, nat_lit 0x501⟩,
     ⟨nat_lit 0x503, nat_lit 0x503⟩, ⟨nat_lit 0x505, nat_lit 0x505⟩,
     ⟨nat_lit 0x507, nat_lit 0x507⟩, ⟨nat_lit 0x509, nat_lit 0x509⟩,
     ⟨nat_lit 0x50B, nat_lit 0x50B⟩, ⟨nat_lit 0x50D, nat_lit 0x50D⟩,
     ⟨nat_lit 0x50F, nat_lit 0x50F⟩, ⟨nat_lit 0x511, nat_lit 0x511⟩,
     ⟨nat_lit 0x513, nat_lit 0x513⟩, ⟨nat_lit 0x515, nat_lit 0x515⟩,
     ⟨nat_lit 0x517, nat_lit 0x517⟩, ⟨nat_lit 0x519, nat_lit 0x519⟩,
     ⟨nat_lit 0x51B, nat_lit 0x51B⟩, ⟨nat_lit 0x51D, nat_lit 0x51D⟩,
     ⟨nat_lit 0x51F, nat_lit 0x51F⟩, ⟨nat_lit 0x521, nat_lit 0x521⟩,
     ⟨nat_lit 0x523, nat_lit 0x523⟩, ⟨nat_lit 0x525, nat_lit 0x525⟩,
     ⟨nat_lit 0x527, nat_lit 0x527⟩, ⟨nat_lit 0x529, nat_lit 0x529⟩,
     ⟨nat_lit 0x52B, nat_lit 0x52B⟩, ⟨nat_lit 0x52D, nat_lit 0x52D⟩,
     ⟨nat_lit 0x52F, nat_lit 0x52F⟩, ⟨nat_lit 0x561, nat_lit 0x587⟩,
     ⟨nat_lit 0x10D0, nat_lit 0x10FA⟩, ⟨nat_lit 0x10FD, nat_lit 0x10FF⟩,
     ⟨nat_lit 0x13F8, nat_lit 0x13FD⟩, ⟨nat_lit 0x1C80, nat_lit 0x1C88⟩,
     ⟨nat_lit 0x1C8A, nat_lit 0x1C8A⟩, ⟨nat_lit 0x1D79, nat_lit 0x1D79⟩,
     ⟨nat_lit 0x1D7D, nat_lit 0x1D7D⟩, ⟨nat_lit 0x1D8E, nat_lit 0x1D8E⟩,
     ⟨nat_lit 0x1E01, nat_lit 0x1E01⟩, ⟨nat_lit 0x1E03, nat_lit 0x1E03⟩,
     ⟨nat_lit 0x1E05, nat_lit 0x1E05⟩, ⟨nat_lit 0x1E07, nat_lit 0x1E07⟩,
     ⟨nat_lit 0x1E09, nat_lit 0x1E09⟩, ⟨nat_lit 0x1E0B, nat_lit 0x1E0B⟩,
     ⟨nat_lit 0x1E0D, nat_lit 0x1E0D⟩, ⟨nat_lit 0x1E0F, nat_lit 0x1E0F⟩,
     ⟨nat_lit 0x1E11, nat_lit 0x1E11⟩, ⟨nat_lit 0x1E13, nat_lit 0x1E13⟩,
     ⟨nat_lit 0x1E15, nat_lit 0x1E15⟩, ⟨nat_lit 0x1E17, nat_lit 0x1E17⟩,
     ⟨nat_lit 0x1E19, nat_lit 0x1E19⟩, ⟨nat_lit 0x1E1B, nat_lit 0x1E1B⟩,
     ⟨nat_lit 0x1E1D, nat_lit 0x1E1D⟩, ⟨nat_lit 0x1E1F, nat_lit 0x1E1F⟩,
     ⟨nat_lit 0x1E21, nat_lit 0x1E21⟩, ⟨nat_lit 0x1E23, nat_lit 0x1E23⟩,
     ⟨nat_lit 0x1E25, nat_lit 0x1E25⟩, ⟨nat_lit 0x1E27, nat_lit 0x1E27⟩,
     ⟨nat_lit 0x1E29, nat_lit 0x1E29⟩, ⟨nat_lit 0x1E2B, nat_lit 0x1E2B⟩,
     ⟨nat_lit 0x1E2D, nat_lit 0x1E2D⟩, ⟨nat_lit 0x1E2F, nat_lit 0x1E2F⟩,
     ⟨nat_lit 0x1E31, nat_lit 0x1E31⟩, ⟨nat_lit 0x1E33, nat_lit 0x1E33⟩,
     ⟨nat_lit 0x1E35, nat_lit 0x1E35⟩, ⟨nat_lit 0x1E37, nat_lit 0x1E37⟩,
     ⟨nat_lit 0x1E39, nat_lit 0x1E39⟩, ⟨nat_lit 0x1E3B, nat_lit 0x1E3B⟩,
     ⟨nat_lit 0x1E3D, nat_lit 0x1E3D⟩, ⟨nat_lit 0x1E3F, nat_lit 0x1E3F⟩,
     ⟨nat_lit 0x1E41, nat_lit 0x1E41⟩, ⟨nat_lit 0x1E43, nat_lit 0x1E43⟩,
     ⟨nat_lit 0x1E45, nat_lit 0x1E45⟩, ⟨nat_lit 0x1E47, nat_lit 0x1E47⟩,
     ⟨nat_lit 0x1E49, nat_lit 0x1E49⟩, ⟨nat_lit 0x1E4B, nat_lit 0x1E4B⟩,
     ⟨nat_lit 0x1E4D, nat_lit 0x1E4D⟩, ⟨nat_lit 0x1E4F, nat_lit 0x1E4F⟩,
     ⟨nat_lit 0x1E51, nat_lit 0x1E51⟩, ⟨nat_lit 0x1E53, nat_lit 0x1E53⟩,
     ⟨nat_lit 0x1E55, nat_lit 0x1E55⟩, ⟨nat_lit 0x1E57, nat_lit 0x1E57⟩,
     ⟨nat_lit 0x1E59, nat_lit 0x1E59⟩, ⟨nat_lit 0x1E5B, nat_lit 0x1E5B⟩,
     ⟨nat_lit 0x1E5D, nat_lit 0x1E5D⟩, ⟨nat_lit 0x1E5F, nat_lit 0x1E5F⟩,
     ⟨nat_lit 0x1E61, nat_lit 0x1E61⟩, ⟨nat_lit 0x1E63, nat_lit 0x1E63⟩,
     ⟨nat_lit 0x1E65, nat_lit 0x1E65⟩, ⟨nat_lit 0x1E67, nat_lit 0x1E67⟩,
     ⟨nat_lit 0x1E69, nat_lit 0x1E69⟩, ⟨nat_lit 0x1E6B, nat_lit 0x1E6B⟩,
     ⟨nat_lit 0x1E6D, nat_lit 0x1E6D⟩, ⟨nat_lit 0x1E6F, nat_lit 0x1E6F⟩,
     ⟨nat_lit 0x1E71, nat_lit 0x1E71⟩, ⟨nat_lit 0x1E73, nat_lit 0x1E73⟩,
     ⟨nat_lit 0x1E75, nat_lit 0x1E75⟩, ⟨nat_lit 0x1E77, nat_lit 0x1E77⟩,
     ⟨nat_lit 0x1E79, nat_lit 0x1E79⟩, ⟨nat_lit 0x1E7B, nat_lit 0x1E7B⟩,
     ⟨nat_lit 0x1E7D, nat_lit 0x1E7D⟩, ⟨nat_lit 0x1E7F, nat_lit 0x1E7F⟩,
     ⟨nat_lit 0x1E81, nat_lit 0x1E81⟩, ⟨nat_lit 0x1E83, nat_lit 0x1E83⟩,
     ⟨nat_lit 0x1E85, nat_lit 0x1E85⟩, ⟨nat_lit 0x1E87, nat_lit 0x1E87⟩,
     ⟨nat_lit 0x1E89, nat_lit 0x1E89⟩, ⟨nat_lit 0x1E8B, nat_lit 0x1E8B⟩,
     ⟨nat_lit 0x1E8D, nat_lit 0x1E8D⟩, ⟨nat_lit 0x1E8F, nat_lit 0x1E8F⟩,
     ⟨nat_lit 0x1E91, nat_lit 0x1E91⟩, ⟨nat_lit 0x1E93, nat_lit 0x1E93⟩,
     ⟨nat_lit 0x1E95, nat_lit 0x1E9B⟩, ⟨nat_lit 0x1EA1, nat_lit 0x1EA1⟩,
     ⟨nat_lit 0x1EA3, nat_lit 0x1EA3⟩, ⟨nat_lit 0x1EA5, nat_lit 0x1EA5⟩,
     ⟨nat_lit 0x1EA7, nat_lit 0x1EA7⟩, ⟨nat_lit 0x1EA9, nat_lit 0x1EA9⟩,
     ⟨nat_lit 0x1EAB, nat_lit 0x1EAB⟩, ⟨nat_lit 0x1EAD, nat_lit 0x1EAD⟩,
     ⟨nat_lit 0x1EAF, nat_lit 0x1EAF⟩, ⟨nat_lit 0x1EB1, nat_lit 0x1EB1⟩,
     ⟨nat_lit 0x1EB3, nat_lit 0x1EB3⟩, ⟨nat_lit 0x1EB5, nat_lit 0x1EB5⟩,
     ⟨nat_lit 0x1EB7, nat_lit 0x1EB7⟩, ⟨nat_lit 0x1EB9, nat_lit 0x1EB9⟩,
     ⟨nat_lit 0x1EBB, nat_lit 0x1EBB⟩, ⟨nat_lit 0x1EBD, nat_lit 0x1EBD⟩,
     ⟨nat_lit 0x1EBF, nat_lit 0x1EBF⟩, ⟨nat_lit 0x1EC1, nat_lit 0x1EC1⟩,
     ⟨nat_lit 0x1EC3, nat_lit 0x1EC3⟩, ⟨nat_lit 0x1EC5, nat_lit 0x1EC5⟩,
     ⟨nat_lit 0x1EC7, nat_lit 0x1EC7⟩, ⟨nat_lit 0x1EC9, nat_lit 0x1EC9⟩,
     ⟨nat_lit 0x1ECB, nat_lit 0x1ECB⟩, ⟨nat_lit 0x1ECD, nat_lit 0x1ECD⟩,
     ⟨nat_lit 0x1ECF, nat_lit 0x1ECF⟩, ⟨nat_lit 0x1ED1, nat_lit 0x1ED1⟩,
     ⟨nat_lit 0x1ED3, nat_lit 0x1ED3⟩, ⟨nat_lit 0x1ED5, nat_lit 0x1ED5⟩,
     ⟨nat_lit 0x1ED7, nat_lit 0x1ED7⟩, ⟨nat_lit 0x1ED9, nat_lit 0x1ED9⟩,
     ⟨nat_lit 0x1EDB, nat_lit 0x1EDB⟩, ⟨nat_lit 0x1EDD, nat_lit 0x1EDD⟩,
     ⟨nat_lit 0x1EDF, nat_lit 0x1EDF⟩, ⟨nat_lit 0x1EE1, nat_lit 0x1EE1⟩,
     ⟨nat_lit 0x1EE3, nat_lit 0x1EE3⟩, ⟨nat_lit 0x1EE5, nat_lit 0x1EE5⟩,
     ⟨nat_lit 0x1EE7, nat_lit 0x1EE7⟩, ⟨nat_lit 0x1EE9, nat_lit 0x1EE9⟩,
     ⟨nat_lit 0x1EEB, nat_lit 0x1EEB⟩, ⟨nat_lit 0x1EED, nat_lit 0x1EED⟩,
     ⟨nat_lit 0x1EEF, nat_lit 0x1EEF⟩, ⟨nat_lit 0x1EF1, nat_lit 0x1EF1⟩,
     ⟨nat_lit 0x1EF3, nat_lit 0x1EF3⟩, ⟨nat_lit 0x1EF5, nat_lit 0x1EF5⟩,
     ⟨nat_lit 0x1EF7, nat_lit 0x1EF7⟩, ⟨nat_lit 0x1EF9, nat_lit 0x1EF9⟩,
     ⟨nat_lit 0x1EFB, nat_lit 0x1EFB⟩, ⟨nat_lit 0x1EFD, nat_lit 0x1EFD⟩,
     ⟨nat_lit 0x1EFF, nat_lit 0x1F07⟩, ⟨nat_lit 0x1F10, nat_lit 0x1F15⟩,
     ⟨nat_lit 0x1F20, nat_lit 0x1F27⟩, ⟨nat_lit 0x1F30, nat_lit 0x1F37⟩,
     ⟨nat_lit 0x1F40, nat_lit 0x1F45⟩, ⟨nat_lit 0x1F50, nat_lit 0x1F57⟩,
     ⟨nat_lit 0x1F60, nat_lit 0x1F67⟩, ⟨nat_lit 0x1F70, nat_lit 0x1F7D⟩,
     ⟨nat_lit 0x1F80, nat_lit 0x1FB4⟩, ⟨nat_lit 0x1FB6, nat_lit 0x1FB7⟩,
     ⟨nat_lit 0x1FBC, nat_lit 0x1FBC⟩, ⟨nat_lit 0x1FBE, nat_lit 0x1FBE⟩,
     ⟨nat_lit 0x1FC2, nat_lit 0x1FC4⟩, ⟨nat_lit 0x1FC6, nat_lit 0x1FC7⟩,
     ⟨nat_lit 0x1FCC, nat_lit 0x1FCC⟩, ⟨nat_lit 0x1FD0, nat_lit 0x1FD3⟩,
     ⟨nat_lit 0x1FD6, nat_lit 0x1FD7⟩, ⟨nat_lit 0x1FE0, nat_lit 0x1FE7⟩,
     ⟨nat_lit 0x1FF2, nat_lit 0x1FF4⟩, ⟨nat_lit 0x1FF6, nat_lit 0x1FF7⟩,
     ⟨nat_lit 0x1FFC, nat_lit 0x1FFC⟩, ⟨nat_lit 0x214E, nat_lit 0x214E⟩,
     ⟨nat_lit 0x2170, nat_lit 0x217F⟩, ⟨nat_lit 0x2184, nat_lit 0x2184⟩,
     ⟨nat_lit 0x24D0, nat_lit 0x24E9⟩, ⟨nat_lit 0x2C30, nat_lit 0x2C5F⟩,
     ⟨nat_lit 0x2C61, nat_lit 0x2C61⟩, ⟨nat_lit 0x2C65, nat_lit 0x2C66⟩,
     ⟨nat_lit 0x2C68, nat_lit 0x2C68⟩, ⟨nat_lit 0x2C6A, nat_lit 0x2C6A⟩,
     ⟨nat_lit 0x2C6C, nat_lit 0x2C6C⟩, ⟨nat_lit 0x2C73, nat_lit 0x2C73⟩,
     ⟨nat_lit 0x2C76, nat_lit 0x2C76⟩, ⟨nat_lit 0x2C81, nat_lit 0x2C81⟩,
     ⟨nat_lit 0x2C83, nat_lit 0x2C83⟩, ⟨nat_lit 0x2C85, nat_lit 0x2C85⟩,
     ⟨nat_lit 0x2C87, nat_lit 0x2C87⟩, ⟨nat_lit 0x2C89, nat_lit 0x2C89⟩,
     ⟨nat_lit 0x2C8B, nat_lit 0x2C8B⟩, ⟨nat_lit 0x2C8D, nat_lit 0x2C8D⟩,
     ⟨nat_lit 0x2C8F, nat_lit 0x2C8F⟩, ⟨nat_lit 0x2C91, nat_lit 0x2C91⟩,
     ⟨nat_lit 0x2C93, nat_lit 0x2C93⟩, ⟨nat_lit 0x2C95, nat_lit 0x2C95⟩,
     ⟨nat_lit 0x2C97, nat_lit 0x2C97⟩, ⟨nat_lit 0x2C99, nat_lit 0x2C99⟩,
     ⟨nat_lit 0x2C9B, nat_lit 0x2C9B⟩, ⟨nat_lit 0x2C9D, nat_lit 0x2C9D⟩,
     ⟨nat_lit 0x2C9F, nat_lit 0x2C9F⟩, ⟨nat_lit 0x2CA1, nat_lit 0x2CA1⟩,
     ⟨nat_lit 0x2CA3, nat_lit 0x2CA3⟩, ⟨nat_lit 0x2CA5, nat_lit 0x2CA5⟩,
     ⟨nat_lit 0x2CA7, nat_lit 0x2CA7⟩, ⟨nat_lit 0x2CA9, nat_lit 0x2CA9⟩,
     ⟨nat_lit 0x2CAB, nat_lit 0x2CAB⟩, ⟨nat_lit 0x2CAD, nat_lit 0x2CAD⟩,
     ⟨nat_lit 0x2CAF, nat_lit 0x2CAF⟩, ⟨nat_lit 0x2CB1, nat_lit 0x2CB1⟩,
     ⟨nat_lit 0x2CB3, nat_lit 0x2CB3⟩, ⟨nat_lit 0x2CB5, nat_lit 0x2CB5⟩,
     ⟨nat_lit 0x2CB7, nat_lit 0x2CB7⟩, ⟨nat_lit 0x2CB9, nat_lit 0x2CB9⟩,
     ⟨nat_lit 0x2CBB, nat_lit 0x2CBB⟩, ⟨nat_lit 0x2CBD, nat_lit 0x2CBD⟩,
     ⟨nat_lit 0x2CBF, nat_lit 0x2CBF⟩, ⟨nat_lit 0x2CC1, nat_lit 0x2CC1⟩,
     ⟨nat_lit 0x2CC3, nat_lit 0x2CC3⟩, ⟨nat_lit 0x2CC5, nat_lit 0x2CC5⟩,
     ⟨nat_lit 0x2CC7, nat_lit 0x2CC7⟩, ⟨nat_lit 0x2CC9, nat_lit 0x2CC9⟩,
     ⟨nat_lit 0x2CCB, nat_lit 0x2CCB⟩, ⟨nat_lit 0x2CCD, nat_lit 0x2CCD⟩,
     ⟨nat_lit 0x2CCF, nat_lit 0x2CCF⟩, ⟨nat_lit 0x2CD1, nat_lit 0x2CD1⟩,
     ⟨nat_lit 0x2CD3, nat_lit 0x2CD3⟩, ⟨nat_lit 0x2CD5, nat_lit 0x2CD5⟩,
     ⟨nat_lit 0x2CD7, nat_lit 0x2CD7⟩, ⟨nat_lit 0x2CD9, nat_lit 0x2CD9⟩,
     ⟨nat_lit 0x2CDB, nat_lit 0x2CDB⟩, ⟨nat_lit 0x2CDD, nat_lit 0x2CDD⟩,
     ⟨nat_lit 0x2CDF, nat_lit 0x2CDF⟩, ⟨nat_lit 0x2CE1, nat_lit 0x2CE1⟩,
     ⟨nat_lit 0x2CE3, nat_lit 0x2CE3⟩, ⟨nat_lit 0x2CEC, nat_lit 0x2CEC⟩,
     ⟨nat_lit 0x2CEE, nat_lit 0x2CEE⟩, ⟨nat_lit 0x2CF3, nat_lit 0x2CF3⟩,
     ⟨nat_lit 0x2D00, nat_lit 0x2D25⟩, ⟨nat_lit 0x2D27, nat_lit 0x2D27⟩,
     ⟨nat_lit 0x2D2D, nat_lit 0x2D2D⟩, ⟨nat_lit 0xA641, nat_lit 0xA641⟩,
     ⟨nat_lit 0xA643, nat_lit 0xA643⟩, ⟨nat_lit 0xA645, nat_lit 0xA645⟩,
     ⟨nat_lit 0xA647, nat_lit 0xA647⟩, ⟨nat_lit 0xA649, nat_lit 0xA649⟩,
     ⟨nat_lit 0xA64B, nat_lit 0xA64B⟩, ⟨nat_lit 0xA64D, nat_lit 0xA64D⟩,
     ⟨nat_lit 0xA64F, nat_lit 0xA64F⟩, ⟨nat_lit 0xA651, nat_lit 0xA651⟩,
     ⟨nat_lit 0xA653, nat_lit 0xA653⟩, ⟨nat_lit 0xA655, nat_lit 0xA655⟩,
     ⟨nat_lit 0xA657, nat_lit 0xA657⟩, ⟨nat_lit 0xA659, nat_lit 0xA659⟩,
     ⟨nat_lit 0xA65B, nat_lit 0xA65B⟩, ⟨nat_lit 0xA65D, nat_lit 0xA65D⟩,
     ⟨nat_lit 0xA65F, nat_lit 0xA65F⟩, ⟨nat_lit 0xA661, nat_lit 0xA661⟩,
     ⟨nat_lit 0xA663, nat_lit 0xA663⟩, ⟨nat_lit 0xA665, nat_lit 0xA665⟩,
     ⟨nat_lit 0xA667, nat_lit 0xA667⟩, ⟨nat_lit 0xA669, nat_lit 0xA669⟩,
     ⟨nat_lit 0xA66B, nat_lit 0xA66B⟩, ⟨nat_lit 0xA66D, nat_lit 0xA66D⟩,
     ⟨nat_lit 0xA681, nat_lit 0xA681⟩, ⟨nat_lit 0xA683, nat_lit 0xA683⟩,
     ⟨nat_lit 0xA685, nat_lit 0xA685⟩, ⟨nat_lit 0xA687, nat_lit 0xA687⟩,
     ⟨nat_lit 0xA689, nat_lit 0xA689⟩, ⟨nat_lit 0xA68B, nat_lit 0xA68B⟩,
     ⟨nat_lit 0xA68D, nat_lit 0xA68D⟩, ⟨nat_lit 0xA68F, nat_lit 0xA68F⟩,
     ⟨nat_lit 0xA691, nat_lit 0xA691⟩, ⟨nat_lit 0xA693, nat_lit 0xA693⟩,
     ⟨nat_lit 0xA695, nat_lit 0xA695⟩, ⟨nat_lit 0xA697, nat_lit 0xA697⟩,
     ⟨nat_lit 0xA699, nat_lit 0xA699⟩, ⟨nat_lit 0xA69B, nat_lit 0xA69B⟩,
     ⟨nat_lit 0xA723, nat_lit 0xA723⟩, ⟨nat_lit 0xA725, nat_lit 0xA725⟩,
     ⟨nat_lit 0xA727, nat_lit 0xA727⟩, ⟨nat_lit 0xA729, nat_lit 0xA729⟩,
     ⟨nat_lit 0xA72B, nat_lit 0xA72B⟩, ⟨nat_lit 0xA72D, nat_lit 0xA72D⟩,
     ⟨nat_lit 0xA72F, nat_lit 0xA72F⟩, ⟨nat_lit 0xA733, nat_lit 0xA733⟩,
     ⟨nat_lit 0xA735, nat_lit 0xA735⟩, ⟨nat_lit 0xA737, nat_lit 0xA737⟩,
     ⟨nat_lit 0xA739, nat_lit 0xA739⟩, ⟨nat_lit 0xA73B, nat_lit 0xA73B⟩,
     ⟨nat_lit 0xA73D, nat_lit 0xA73D⟩, ⟨nat_lit 0xA73F, nat_lit 0xA73F⟩,
     ⟨nat_lit 0xA741, nat_lit 0xA741⟩, ⟨nat_lit 0xA743, nat_lit 0xA743⟩,
     ⟨nat_lit 0xA745, nat_lit 0xA745⟩, ⟨nat_lit 0xA747, nat_lit 0xA747⟩,
     ⟨nat_lit 0xA749, nat_lit 0xA749⟩, ⟨nat_lit 0xA74B, nat_lit 0xA74B⟩,
     ⟨nat_lit 0xA74D, nat_lit 0xA74D⟩, ⟨nat_lit 0xA74F, nat_lit 0xA74F⟩,
     ⟨nat_lit 0xA751, nat_lit 0xA751⟩, ⟨nat_lit 0xA753, nat_lit 0xA753⟩,
     ⟨nat_lit 0xA755, nat_lit 0xA755⟩, ⟨nat_lit 0xA757, nat_lit 0xA757⟩,
     ⟨nat_lit 0xA759, nat_lit 0xA759⟩, ⟨nat_lit 0xA75B, nat_lit 0xA75B⟩,
     ⟨nat_lit 0xA75D, nat_lit 0xA75D⟩, ⟨nat_lit 0xA75F, nat_lit 0xA75F⟩,
     ⟨nat_lit 0xA761, nat_lit 0xA761⟩, ⟨nat_lit 0xA763, nat_lit 0xA763⟩,
     ⟨nat_lit 0xA765, nat_lit 0xA765⟩, ⟨nat_lit 0xA767, nat_lit 0xA767⟩,
     ⟨nat_lit 0xA769, nat_lit 0xA769⟩, ⟨nat_lit 0xA76B, nat_lit 0xA76B⟩,
     ⟨nat_lit 0xA76D, nat_lit 0xA76D⟩, ⟨nat_lit 0xA76F, nat_lit 0xA76F⟩,
     ⟨nat_lit 0xA77A, nat_lit 0xA77A⟩, ⟨nat_lit 0xA77C, nat_lit 0xA77C⟩,
     ⟨nat_lit 0xA77F, nat_lit 0xA77F⟩, ⟨nat_lit 0xA781, nat_lit 0xA781⟩,
     ⟨nat_lit 0xA783, nat_lit 0xA783⟩, ⟨nat_lit 0xA785, nat_lit 0xA785⟩,
     ⟨nat_lit 0xA787, nat_lit 0xA787⟩, ⟨nat_lit 0xA78C, nat_lit 0xA78C⟩,
     ⟨nat_lit 0xA791, nat_lit 0xA791⟩, ⟨nat_lit 0xA793, nat_lit 0xA794⟩,
     ⟨nat_lit 0xA797, nat_lit 0xA797⟩, ⟨nat_lit 0xA799, nat_lit 0xA799⟩,
     ⟨nat_lit 0xA79B, nat_lit 0xA79B⟩, ⟨nat_lit 0xA79D, nat_lit 0xA79D⟩,
     ⟨nat_lit 0xA79F, nat_lit 0xA79F⟩, ⟨nat_lit 0xA7A1, nat_lit 0xA7A1⟩,
     ⟨nat_lit 0xA7A3, nat_lit 0xA7A3⟩, ⟨nat_lit 0xA7A5, nat_lit 0xA7A5⟩,
     ⟨nat_lit 0xA7A7, nat_lit 0xA7A7⟩, ⟨nat_lit 0xA7A9, nat_lit 0xA7A9⟩,
     ⟨nat_lit 0xA7B5, nat_lit 0xA7B5⟩, ⟨nat_lit 0xA7B7, nat_lit 0xA7B7⟩,
     ⟨nat_lit 0xA7B9, nat_lit 0xA7B9⟩, ⟨nat_lit 0xA7BB, nat_lit 0xA7BB⟩,
     ⟨nat_lit 0xA7BD, nat_lit 0xA7BD⟩, ⟨nat_lit 0xA7BF, nat_lit 0xA7BF⟩,
     ⟨nat_lit 0xA7C1, nat_lit 0xA7C1⟩, ⟨nat_lit 0xA7C3, nat_lit 0xA7C3⟩,
     ⟨nat_lit 0xA7C8, nat_lit 0xA7C8⟩, ⟨nat_lit 0xA7CA, nat_lit 0xA7CA⟩,
     ⟨nat_lit 0xA7CD, nat_lit 0xA7CD⟩, ⟨nat_lit 0xA7D1, nat_lit 0xA7D1⟩,
     ⟨nat_lit 0xA7D7, nat_lit 0xA7D7⟩, ⟨nat_lit 0xA7D9, nat_lit 0xA7D9⟩,
     ⟨nat_lit 0xA7DB, nat_lit 0xA7DB⟩, ⟨nat_lit 0xA7F6, nat_lit 0xA7F6⟩,
     ⟨nat_lit 0xAB53, nat_lit 0xAB53⟩, ⟨nat_lit 0xAB70, nat_lit 0xABBF⟩,
     ⟨nat_lit 0xFB00, nat_lit 0xFB06⟩, ⟨nat_lit 0xFB13, nat_lit 0xFB17⟩,
     ⟨nat_lit 0xFF41, nat_lit 0xFF5A⟩, ⟨nat_lit 0x10428, nat_lit 0x1044F⟩,
     ⟨nat_lit 0x104D8, nat_lit 0x104FB⟩, ⟨nat_lit 0x10597, nat_lit 0x105A1⟩,
     ⟨nat_lit 0x105A3, nat_lit 0x105B1⟩, ⟨nat_lit 0x105B3, nat_lit 0x105B9⟩,
     ⟨nat_lit 0x105BB, nat_lit 0x105BC⟩, ⟨nat_lit 0x10CC0, nat_lit 0x10CF2⟩,
     ⟨nat_lit 0x10D70, nat_lit 0x10D85⟩, ⟨nat_lit 0x118C0, nat_lit 0x118DF⟩,
     ⟨nat_lit 0x16E60, nat_lit 0x16E7F⟩, ⟨nat_lit 0x1E922, nat_lit 0x1E943⟩]),
  ("Soft_Dotted",
    [⟨nat_lit 0x69, nat_lit 0x6A⟩, ⟨nat_lit 0x12F, nat_lit 0x12F⟩, ⟨nat_lit 0x249, nat_lit 0x249⟩,
     ⟨nat_lit 0x268, nat_lit 0x268⟩, ⟨nat_lit 0x29D, nat_lit 0x29D⟩,
     ⟨nat_lit 0x2B2, nat_lit 0x2B2⟩, ⟨nat_lit 0x3F3, nat_lit 0x3F3⟩,
     ⟨nat_lit 0x456, nat_lit 0x456⟩, ⟨nat_lit 0x458, nat_lit 0x458⟩,
     ⟨nat_lit 0x1D62, nat_lit 0x1D62⟩, ⟨nat_lit 0x1D96, nat_lit 0x1D96⟩,
     ⟨nat_lit 0x1DA4, nat_lit 0x1DA4⟩, ⟨nat_lit 0x1DA8, nat_lit 0x1DA8⟩,
     ⟨nat_lit 0x1E2D, nat_lit 0x1E2D⟩, ⟨nat_lit 0x1ECB, nat_lit 0x1ECB⟩,
     ⟨nat_lit 0x2071, nat_lit 0x2071⟩, ⟨nat_lit 0x2148, nat_lit 0x2149⟩,
     ⟨nat_lit 0x2C7C, nat_lit 0x2C7C⟩, ⟨nat_lit 0x1D422, nat_lit 0x1D423⟩,
     ⟨nat_lit 0x1D456, nat_lit 0x1D457⟩, ⟨nat_lit 0x1D48A, nat_lit 0x1D48B⟩,
     ⟨nat_lit 0x1D4BE, nat_lit 0x1D4BF⟩, ⟨nat_lit 0x1D4F2, nat_lit 0x1D4F3⟩,
     ⟨nat_lit 0x1D526, nat_lit 0x1D527⟩, ⟨nat_lit 0x1D55A, nat_lit 0x1D55B⟩,
     ⟨nat_lit 0x1D58E, nat_lit 0x1D58F⟩, ⟨nat_lit 0x1D5C2, nat_lit 0x1D5C3⟩,
     ⟨nat_lit 0x1D5F6, nat_lit 0x1D5F7⟩, ⟨nat_lit 0x1D62A, nat_lit 0x1D62B⟩,
     ⟨nat_lit 0x1D65E, nat_lit 0x1D65F⟩, ⟨nat_lit 0x1D692, nat_lit 0x1D693⟩,
     ⟨nat_lit 0x1DF1A, nat_lit 0x1DF1A⟩, ⟨nat_lit 0x1E04C, nat_lit 0x1E04D⟩,
     ⟨nat_lit 0x1E068, nat_lit 0x1E068⟩])]

end Unicode

end EcmaRegex
