import EcmaRegex.CodePointSet.Basic
/-!
# Script extensions

The Script_Extensions property of the Unicode character database, version 16.0: for each
script, by its long name, the code points used with that script.  This is the Script property
widened by the characters shared between several scripts, such as some punctuation and digits.
-/

namespace EcmaRegex

namespace Unicode

set_option maxRecDepth 20000 in
/-- The code points used with each script, as ranges, by the script's long name. -/
def scriptExtensionTable : List (String × List CodePointRange) := [
  ("Adlam",
    [⟨nat_lit 0x61F, nat_lit 0x61F⟩, ⟨nat_lit 0x640, nat_lit 0x640⟩,
     ⟨nat_lit 0x204F, nat_lit 0x204F⟩, ⟨nat_lit 0x2E41, nat_lit 0x2E41⟩,
     ⟨nat_lit 0x1E900, nat_lit 0x1E94B⟩, ⟨nat_lit 0x1E950, nat_lit 0x1E959⟩,
     ⟨nat_lit 0x1E95E, nat_lit 0x1E95F⟩]),
  ("Ahom",
    [⟨nat_lit 0x11700, nat_lit 0x1171A⟩, ⟨nat_lit 0x1171D, nat_lit 0x1172B⟩,
     ⟨nat_lit 0x11730, nat_lit 0x11746⟩]),
  ("Anatolian_Hieroglyphs",
    [⟨nat_lit 0x14400, nat_lit 0x14646⟩]),
  ("Arabic",
    [⟨nat_lit 0x600, nat_lit 0x604⟩, ⟨nat_lit 0x606, nat_lit 0x6DC⟩,
     ⟨nat_lit 0x6DE, nat_lit 0x6FF⟩, ⟨nat_lit 0x750, nat_lit 0x77F⟩,
     ⟨nat_lit 0x870, nat_lit 0x88E⟩, ⟨nat_lit 0x890, nat_lit 0x891⟩,
     ⟨nat_lit 0x897, nat_lit 0x8E1⟩, ⟨nat_lit 0x8E3, nat_lit 0x8FF⟩,
     ⟨nat_lit 0x204F, nat_lit 0x204F⟩, ⟨nat_lit 0x2E41, nat_lit 0x2E41⟩,
     ⟨nat_lit 0xFB50, nat_lit 0xFBC2⟩, ⟨nat_lit 0xFBD3, nat_lit 0xFD8F⟩,
     ⟨nat_lit 0xFD92, nat_lit 0xFDC7⟩, ⟨nat_lit 0xFDCF, nat_lit 0xFDCF⟩,
     ⟨nat_lit 0xFDF0, nat_lit 0xFDFF⟩, ⟨nat_lit 0xFE70, nat_lit 0xFE74⟩,
     ⟨nat_lit 0xFE76, nat_lit 0xFEFC⟩, ⟨nat_lit 0x102E0, nat_lit 0x102FB⟩,
     ⟨nat_lit 0x10E60, nat_lit 0x10E7E⟩, ⟨nat_lit 0x10EC2, nat_lit 0x10EC4⟩,
     ⟨nat_lit 0x10EFC, nat_lit 0x10EFF⟩, ⟨nat_lit 0x1EE00, nat_lit 0x1EE03⟩,
     ⟨nat_lit 0x1EE05, nat_lit 0x1EE1F⟩, ⟨nat_lit 0x1EE21, nat_lit 0x1EE22⟩,
     ⟨nat_lit 0x1EE24, nat_lit 0x1EE24⟩, ⟨nat_lit 0x1EE27, nat_lit 0x1EE27⟩,
     ⟨nat_lit 0x1EE29, nat_lit 0x1EE32⟩, ⟨nat_lit 0x1EE34, nat_lit 0x1EE37⟩,
     ⟨nat_lit 0x1EE39, nat_lit 0x1EE39⟩, ⟨nat_lit 0x1EE3B, nat_lit 0x1EE3B⟩,
     ⟨nat_lit 0x1EE42, nat_lit 0x1EE42⟩, ⟨nat_lit 0x1EE47, nat_lit 0x1EE47⟩,
     ⟨nat_lit 0x1EE49, nat_lit 0x1EE49⟩, ⟨nat_lit 0x1EE4B, nat_lit 0x1EE4B⟩,
     ⟨nat_lit 0x1EE4D, nat_lit 0x1EE4F⟩, ⟨nat_lit 0x1EE51, nat_lit 0x1EE52⟩,
     ⟨nat_lit 0x1EE54, nat_lit 0x1EE54⟩, ⟨nat_lit 0x1EE57, nat_lit 0x1EE57⟩,
     ⟨nat_lit 0x1EE59, nat_lit 0x1EE59⟩, ⟨nat_lit 0x1EE5B, nat_lit 0x1EE5B⟩,
     ⟨nat_lit 0x1EE5D, nat_lit 0x1EE5D⟩, ⟨nat_lit 0x1EE5F, nat_lit 0x1EE5F⟩,
     ⟨nat_lit 0x1EE61, nat_lit 0x1EE62⟩, ⟨nat_lit 0x1EE64, nat_lit 0x1EE64⟩,
     ⟨nat_lit 0x1EE67, nat_lit 0x1EE6A⟩, ⟨nat_lit 0x1EE6C, nat_lit 0x1EE72⟩,
     ⟨nat_lit 0x1EE74, nat_lit 0x1EE77⟩, ⟨nat_lit 0x1EE79, nat_lit 0x1EE7C⟩,
     ⟨nat_lit 0x1EE7E, nat_lit 0x1EE7E⟩, ⟨nat_lit 0x1EE80, nat_lit 0x1EE89⟩,
     ⟨nat_lit 0x1EE8B, nat_lit 0x1EE9B⟩, ⟨nat_lit 0x1EEA1, nat_lit 0x1EEA3⟩,
     ⟨nat_lit 0x1EEA5, nat_lit 0x1EEA9⟩, ⟨nat_lit 0x1EEAB, nat_lit 0x1EEBB⟩,
     ⟨nat_lit 0x1EEF0, nat_lit 0x1EEF1⟩]),
  ("Armenian",
    [⟨nat_lit 0x308, nat_lit 0x308⟩, ⟨nat_lit 0x531, nat_lit 0x556⟩,
     ⟨nat_lit 0x559, nat_lit 0x58A⟩, ⟨nat_lit 0x58D, nat_lit 0x58F⟩,
     ⟨nat_lit 0xFB13, nat_lit 0xFB17⟩]),
  ("Avestan",
    [⟨nat_lit 0xB7, nat_lit 0xB7⟩, ⟨nat_lit 0x2E30, nat_lit 0x2E31⟩,
     ⟨nat_lit 0x10B00, nat_lit 0x10B35⟩, ⟨nat_lit 0x10B39, nat_lit 0x10B3F⟩]),
  ("Balinese",
    [⟨nat_lit 0x1B00, nat_lit 0x1B4C⟩, ⟨nat_lit 0x1B4E, nat_lit 0x1B7F⟩]),
  ("Bamum",
    [⟨nat_lit 0xA6A0, nat_lit 0xA6F7⟩, ⟨nat_lit 0x16800, nat_lit 0x16A38⟩]),
  ("Bassa_Vah",
    [⟨nat_lit 0x16AD0, nat_lit 0x16AED⟩, ⟨nat_lit 0x16AF0, nat_lit 0x16AF5⟩]),
  ("Batak",
    [⟨nat_lit 0x1BC0, nat_lit 0x1BF3⟩, ⟨nat_lit 0x1BFC, nat_lit 0x1BFF⟩]),
  ("Bengali",
    [⟨nat_lit 0x2BC, nat_lit 0x2BC⟩, ⟨nat_lit 0x951, nat_lit 0x952⟩,
     ⟨nat_lit 0x964, nat_lit 0x965⟩, ⟨nat_lit 0x980, nat_lit 0x983⟩,
     ⟨nat_lit 0x985, nat_lit 0x98C⟩, ⟨nat_lit 0x98F, nat_lit 0x990⟩,
     ⟨nat_lit 0x993, nat_lit 0x9A8⟩, ⟨nat_lit 0x9AA, nat_lit 0x9B0⟩,
     ⟨nat_lit 0x9B2, nat_lit 0x9B2⟩, ⟨nat_lit 0x9B6, nat_lit 0x9B9⟩,
     ⟨nat_lit 0x9BC, nat_lit 0x9C4⟩, ⟨nat_lit 0x9C7, nat_lit 0x9C8⟩,
     ⟨nat_lit 0x9CB, nat_lit 0x9CE⟩, ⟨nat_lit 0x9D7, nat_lit 0x9D7⟩,
     ⟨nat_lit 0x9DC, nat_lit 0x9DD⟩, ⟨nat_lit 0x9DF, nat_lit 0x9E3⟩,
     ⟨nat_lit 0x9E6, nat_lit 0x9FE⟩, ⟨nat_lit 0x1CD0, nat_lit 0x1CD0⟩,
     ⟨nat_lit 0x1CD2, nat_lit 0x1CD2⟩, ⟨nat_lit 0x1CD5, nat_lit 0x1CD6⟩,
     ⟨nat_lit 0x1CD8, nat_lit 0x1CD8⟩, ⟨nat_lit 0x1CE1, nat_lit 0x1CE1⟩,
     ⟨nat_lit 0x1CEA, nat_lit 0x1CEA⟩, ⟨nat_lit 0x1CED, nat_lit 0x1CED⟩,
     ⟨nat_lit 0x1CF2, nat_lit 0x1CF2⟩, ⟨nat_lit 0x1CF5, nat_lit 0x1CF7⟩,
     ⟨nat_lit 0xA8F1, nat_lit 0xA8F1⟩]),
  ("Bhaiksuki",
    [⟨nat_lit 0x11C00, nat_lit 0x11C08⟩, ⟨nat_lit 0x11C0A, nat_lit 0x11C36⟩,
     ⟨nat_lit 0x11C38, nat_lit 0x11C45⟩, ⟨nat_lit 0x11C50, nat_lit 0x11C6C⟩]),
  ("Bopomofo",
    [⟨nat_lit 0x2C7, nat_lit 0x2C7⟩, ⟨nat_lit 0x2C9, nat_lit 0x2CB⟩,
     ⟨nat_lit 0x2D9, nat_lit 0x2D9⟩, ⟨nat_lit 0x2EA, nat_lit 0x2EB⟩,
     ⟨nat_lit 0x3001, nat_lit 0x3003⟩, ⟨nat_lit 0x3008, nat_lit 0x3011⟩,
     ⟨nat_lit 0x3013, nat_lit 0x301F⟩, ⟨nat_lit 0x302A, nat_lit 0x302D⟩,
     ⟨nat_lit 0x3030, nat_lit 0x3030⟩, ⟨nat_lit 0x3037, nat_lit 0x3037⟩,
     ⟨nat_lit 0x30FB, nat_lit 0x30FB⟩, ⟨nat_lit 0x3105, nat_lit 0x312F⟩,
     ⟨nat_lit 0x31A0, nat_lit 0x31BF⟩, ⟨nat_lit 0xFE45, nat_lit 0xFE46⟩,
     ⟨nat_lit 0xFF61, nat_lit 0xFF65⟩]),
  ("Brahmi",
    [⟨nat_lit 0x11000, nat_lit 0x1104D⟩, ⟨nat_lit 0x11052, nat_lit 0x11075⟩,
     ⟨nat_lit 0x1107F, nat_lit 0x1107F⟩]),
  ("Braille",
    [⟨nat_lit 0x2800, nat_lit 0x28FF⟩]),
  ("Buginese",
    [⟨nat_lit 0x1A00, nat_lit 0x1A1B⟩, ⟨nat_lit 0x1A1E, nat_lit 0x1A1F⟩,
     ⟨nat_lit 0xA9CF, nat_lit 0xA9CF⟩]),
  ("Buhid",
    [⟨nat_lit 0x1735, nat_lit 0x1736⟩, ⟨nat_lit 0x1740, nat_lit 0x1753⟩]),
  ("Canadian_Aboriginal",
    [⟨nat_lit 0x1400, nat_lit 0x167F⟩, ⟨nat_lit 0x18B0, nat_lit 0x18F5⟩,
     ⟨nat_lit 0x11AB0, nat_lit 0x11ABF⟩]),
  ("Carian",
    [⟨nat_lit 0xB7, nat_lit 0xB7⟩, ⟨nat_lit 0x205A, nat_lit 0x205A⟩,
     ⟨nat_lit 0x205D, nat_lit 0x205D⟩, ⟨nat_lit 0x2E31, nat_lit 0x2E31⟩,
     ⟨nat_lit 0x102A0, nat_lit 0x102D0⟩]),
  ("Caucasian_Albanian",
    [⟨nat_lit 0x304, nat_lit 0x304⟩, ⟨nat_lit 0x331, nat_lit 0x331⟩,
     ⟨nat_lit 0x35E, nat_lit 0x35E⟩, ⟨nat_lit 0x10530, nat_lit 0x10563⟩,
     ⟨nat_lit 0x1056F, nat_lit 0x1056F⟩]),
  ("Chakma",
    [⟨nat_lit 0x9E6, nat_lit 0x9EF⟩, ⟨nat_lit 0x1040, nat_lit 0x1049⟩,
     ⟨nat_lit 0x11100, nat_lit 0x11134⟩, ⟨nat_lit 0x11136, nat_lit 0x11147⟩]),
  ("Cham",
    [⟨nat_lit 0xAA00, nat_lit 0xAA36⟩, ⟨nat_lit 0xAA40, nat_lit 0xAA4D⟩,
     ⟨nat_lit 0xAA50, nat_lit 0xAA59⟩, ⟨nat_lit 0xAA5C, nat_lit 0xAA5F⟩]),
  ("Cherokee",
    [⟨nat_lit 0x300, nat_lit 0x302⟩, ⟨nat_lit 0x304, nat_lit 0x304⟩,
     ⟨nat_lit 0x30B, nat_lit 0x30C⟩, ⟨nat_lit 0x323, nat_lit 0x324⟩,
     ⟨nat_lit 0x330, nat_lit 0x331⟩, ⟨nat_lit 0x13A0, nat_lit 0x13F5⟩,
     ⟨nat_lit 0x13F8, nat_lit 0x13FD⟩, ⟨nat_lit 0xAB70, nat_lit 0xABBF⟩]),
  ("Chorasmian",
    [⟨nat_lit 0x10FB0, nat_lit 0x10FCB⟩]),
  ("Common",
    [⟨nat_lit 0x0, nat_lit 0x40⟩, ⟨nat_lit 0x5B, nat_lit 0x60⟩, ⟨nat_lit 0x7B, nat_lit 0xA9⟩,
     ⟨nat_lit 0xAB, nat_lit 0xB6⟩, ⟨nat_lit 0xB8, nat_lit 0xB9⟩, ⟨nat_lit 0xBB, nat_lit 0xBF⟩,
     ⟨nat_lit 0xD7, nat_lit 0xD7⟩, ⟨nat_lit 0xF7, nat_lit 0xF7⟩, ⟨nat_lit 0x2B9, nat_lit 0x2BB⟩,
     ⟨nat_lit 0x2BD, nat_lit 0x2C6⟩, ⟨nat_lit 0x2C8, nat_lit 0x2C8⟩,
     ⟨nat_lit 0x2CC, nat_lit 0x2CC⟩, ⟨nat_lit 0x2CE, nat_lit 0x2D6⟩,
     ⟨nat_lit 0x2D8, nat_lit 0x2D8⟩, ⟨nat_lit 0x2DA, nat_lit 0x2DF⟩,
     ⟨nat_lit 0x2E5, nat_lit 0x2E9⟩, ⟨nat_lit 0x2EC, nat_lit 0x2FF⟩,
     ⟨nat_lit 0x37E, nat_lit 0x37E⟩, ⟨nat_lit 0x385, nat_lit 0x385⟩,
     ⟨nat_lit 0x387, nat_lit 0x387⟩, ⟨nat_lit 0x605, nat_lit 0x605⟩,
     ⟨nat_lit 0x6DD, nat_lit 0x6DD⟩, ⟨nat_lit 0x8E2, nat_lit 0x8E2⟩,
     ⟨nat_lit 0xE3F, nat_lit 0xE3F⟩, ⟨nat_lit 0xFD5, nat_lit 0xFD8⟩,
     ⟨nat_lit 0x2000, nat_lit 0x200B⟩, ⟨nat_lit 0x200E, nat_lit 0x202E⟩,
     ⟨nat_lit 0x2030, nat_lit 0x204E⟩, ⟨nat_lit 0x2050, nat_lit 0x2059⟩,
     ⟨nat_lit 0x205B, nat_lit 0x205C⟩, ⟨nat_lit 0x205E, nat_lit 0x2064⟩,
     ⟨nat_lit 0x2066, nat_lit 0x2070⟩, ⟨nat_lit 0x2074, nat_lit 0x207E⟩,
     ⟨nat_lit 0x2080, nat_lit 0x208E⟩, ⟨nat_lit 0x20A0, nat_lit 0x20C0⟩,
     ⟨nat_lit 0x2100, nat_lit 0x2125⟩, ⟨nat_lit 0x2127, nat_lit 0x2129⟩,
     ⟨nat_lit 0x212C, nat_lit 0x2131⟩, ⟨nat_lit 0x2133, nat_lit 0x214D⟩,
     ⟨nat_lit 0x214F, nat_lit 0x215F⟩, ⟨nat_lit 0x2189, nat_lit 0x218B⟩,
     ⟨nat_lit 0x2190, nat_lit 0x2429⟩, ⟨nat_lit 0x2440, nat_lit 0x244A⟩,
     ⟨nat_lit 0x2460, nat_lit 0x27FF⟩, ⟨nat_lit 0x2900, nat_lit 0x2B73⟩,
     ⟨nat_lit 0x2B76, nat_lit 0x2B95⟩, ⟨nat_lit 0x2B97, nat_lit 0x2BFF⟩,
     ⟨nat_lit 0x2E00, nat_lit 0x2E16⟩, ⟨nat_lit 0x2E18, nat_lit 0x2E2F⟩,
     ⟨nat_lit 0x2E32, nat_lit 0x2E3B⟩, ⟨nat_lit 0x2E3D, nat_lit 0x2E40⟩,
     ⟨nat_lit 0x2E42, nat_lit 0x2E42⟩, ⟨nat_lit 0x2E44, nat_lit 0x2E5D⟩,
     ⟨nat_lit 0x3000, nat_lit 0x3000⟩, ⟨nat_lit 0x3004, nat_lit 0x3004⟩,
     ⟨nat_lit 0x3012, nat_lit 0x3012⟩, ⟨nat_lit 0x3020, nat_lit 0x3020⟩,
     ⟨nat_lit 0x3036, nat_lit 0x3036⟩, ⟨nat_lit 0x3248, nat_lit 0x325F⟩,
     ⟨nat_lit 0x327F, nat_lit 0x327F⟩, ⟨nat_lit 0x32B1, nat_lit 0x32BF⟩,
     ⟨nat_lit 0x32CC, nat_lit 0x32CF⟩, ⟨nat_lit 0x3371, nat_lit 0x337A⟩,
     ⟨nat_lit 0x3380, nat_lit 0x33DF⟩, ⟨nat_lit 0x33FF, nat_lit 0x33FF⟩,
     ⟨nat_lit 0x4DC0, nat_lit 0x4DFF⟩, ⟨nat_lit 0xA708, nat_lit 0xA721⟩,
     ⟨nat_lit 0xA788, nat_lit 0xA78A⟩, ⟨nat_lit 0xAB5B, nat_lit 0xAB5B⟩,
     ⟨nat_lit 0xAB6A, nat_lit 0xAB6B⟩, ⟨nat_lit 0xFE10, nat_lit 0xFE19⟩,
     ⟨nat_lit 0xFE30, nat_lit 0xFE44⟩, ⟨nat_lit 0xFE47, nat_lit 0xFE52⟩,
     ⟨nat_lit 0xFE54, nat_lit 0xFE66⟩, ⟨nat_lit 0xFE68, nat_lit 0xFE6B⟩,
     ⟨nat_lit 0xFEFF, nat_lit 0xFEFF⟩, ⟨nat_lit 0xFF01, nat_lit 0xFF20⟩,
     ⟨nat_lit 0xFF3B, nat_lit 0xFF40⟩, ⟨nat_lit 0xFF5B, nat_lit 0xFF60⟩,
     ⟨nat_lit 0xFFE0, nat_lit 0xFFE6⟩, ⟨nat_lit 0xFFE8, nat_lit 0xFFEE⟩,
     ⟨nat_lit 0xFFF9, nat_lit 0xFFFD⟩, ⟨nat_lit 0x10190, nat_lit 0x1019C⟩,
     ⟨nat_lit 0x101D0, nat_lit 0x101FC⟩, ⟨nat_lit 0x1CC00, nat_lit 0x1CCF9⟩,
     ⟨nat_lit 0x1CD00, nat_lit 0x1CEB3⟩, ⟨nat_lit 0x1CF50, nat_lit 0x1CFC3⟩,
     ⟨nat_lit 0x1D000, nat_lit 0x1D0F5⟩, ⟨nat_lit 0x1D100, nat_lit 0x1D126⟩,
     ⟨nat_lit 0x1D129, nat_lit 0x1D166⟩, ⟨nat_lit 0x1D16A, nat_lit 0x1D17A⟩,
     ⟨nat_lit 0x1D183, nat_lit 0x1D184⟩, ⟨nat_lit 0x1D18C, nat_lit 0x1D1A9⟩,
     ⟨nat_lit 0x1D1AE, nat_lit 0x1D1EA⟩, ⟨nat_lit 0x1D2C0, nat_lit 0x1D2D3⟩,
     ⟨nat_lit 0x1D2E0, nat_lit 0x1D2F3⟩, ⟨nat_lit 0x1D300, nat_lit 0x1D356⟩,
     ⟨nat_lit 0x1D372, nat_lit 0x1D378⟩, ⟨nat_lit 0x1D400, nat_lit 0x1D454⟩,
     ⟨nat_lit 0x1D456, nat_lit 0x1D49C⟩, ⟨nat_lit 0x1D49E, nat_lit 0x1D49F⟩,
     ⟨nat_lit 0x1D4A2, nat_lit 0x1D4A2⟩, ⟨nat_lit 0x1D4A5, nat_lit 0x1D4A6⟩,
     ⟨nat_lit 0x1D4A9, nat_lit 0x1D4AC⟩, ⟨nat_lit 0x1D4AE, nat_lit 0x1D4B9⟩,
     ⟨nat_lit 0x1D4BB, nat_lit 0x1D4BB⟩, ⟨nat_lit 0x1D4BD, nat_lit 0x1D4C3⟩,
     ⟨nat_lit 0x1D4C5, nat_lit 0x1D505⟩, ⟨nat_lit 0x1D507, nat_lit 0x1D50A⟩,
     ⟨nat_lit 0x1D50D, nat_lit 0x1D514⟩, ⟨nat_lit 0x1D516, nat_lit 0x1D51C⟩,
     ⟨nat_lit 0x1D51E, nat_lit 0x1D539⟩, ⟨nat_lit 0x1D53B, nat_lit 0x1D53E⟩,
     ⟨nat_lit 0x1D540, nat_lit 0x1D544⟩, ⟨nat_lit 0x1D546, nat_lit 0x1D546⟩,
     ⟨nat_lit 0x1D54A, nat_lit 0x1D550⟩, ⟨nat_lit 0x1D552, nat_lit 0x1D6A5⟩,
     ⟨nat_lit 0x1D6A8, nat_lit 0x1D7CB⟩, ⟨nat_lit 0x1D7CE, nat_lit 0x1D7FF⟩,
     ⟨nat_lit 0x1EC71, nat_lit 0x1ECB4⟩, ⟨nat_lit 0x1ED01, nat_lit 0x1ED3D⟩,
     ⟨nat_lit 0x1F000, nat_lit 0x1F02B⟩, ⟨nat_lit 0x1F030, nat_lit 0x1F093⟩,
     ⟨nat_lit 0x1F0A0, nat_lit 0x1F0AE⟩, ⟨nat_lit 0x1F0B1, nat_lit 0x1F0BF⟩,
     ⟨nat_lit 0x1F0C1, nat_lit 0x1F0CF⟩, ⟨nat_lit 0x1F0D1, nat_lit 0x1F0F5⟩,
     ⟨nat_lit 0x1F100, nat_lit 0x1F1AD⟩, ⟨nat_lit 0x1F1E6, nat_lit 0x1F1FF⟩,
     ⟨nat_lit 0x1F201, nat_lit 0x1F202⟩, ⟨nat_lit 0x1F210, nat_lit 0x1F23B⟩,
     ⟨nat_lit 0x1F240, nat_lit 0x1F248⟩, ⟨nat_lit 0x1F260, nat_lit 0x1F265⟩,
     ⟨nat_lit 0x1F300, nat_lit 0x1F6D7⟩, ⟨nat_lit 0x1F6DC, nat_lit 0x1F6EC⟩,
     ⟨nat_lit 0x1F6F0, nat_lit 0x1F6FC⟩, ⟨nat_lit 0x1F700, nat_lit 0x1F776⟩,
     ⟨nat_lit 0x1F77B, nat_lit 0x1F7D9⟩, ⟨nat_lit 0x1F7E0, nat_lit 0x1F7EB⟩,
     ⟨nat_lit 0x1F7F0, nat_lit 0x1F7F0⟩, ⟨nat_lit 0x1F800, nat_lit 0x1F80B⟩,
     ⟨nat_lit 0x1F810, nat_lit 0x1F847⟩, ⟨nat_lit 0x1F850, nat_lit 0x1F859⟩,
     ⟨nat_lit 0x1F860, nat_lit 0x1F887⟩, ⟨nat_lit 0x1F890, nat_lit 0x1F8AD⟩,
     ⟨nat_lit 0x1F8B0, nat_lit 0x1F8BB⟩, ⟨nat_lit 0x1F8C0, nat_lit 0x1F8C1⟩,
     ⟨nat_lit 0x1F900, nat_lit 0x1FA53⟩, ⟨nat_lit 0x1FA60, nat_lit 0x1FA6D⟩,
     ⟨nat_lit 0x1FA70, nat_lit 0x1FA7C⟩, ⟨nat_lit 0x1FA80, nat_lit 0x1FA89⟩,
     ⟨nat_lit 0x1FA8F, nat_lit 0x1FAC6⟩, ⟨nat_lit 0x1FACE, nat_lit 0x1FADC⟩,
     ⟨nat_lit 0x1FADF, nat_lit 0x1FAE9⟩, ⟨nat_lit 0x1FAF0, nat_lit 0x1FAF8⟩,
     ⟨nat_lit 0x1FB00, nat_lit 0x1FB92⟩, ⟨nat_lit 0x1FB94, nat_lit 0x1FBF9⟩,
     ⟨nat_lit 0xE0001, nat_lit 0xE0001⟩, ⟨nat_lit 0xE0020, nat_lit 0xE007F⟩]),
  ("Coptic",
    [⟨nat_lit 0xB7, nat_lit 0xB7⟩, ⟨nat_lit 0x300, nat_lit 0x300⟩, ⟨nat_lit 0x304, nat_lit 0x305⟩,
     ⟨nat_lit 0x307, nat_lit 0x307⟩, ⟨nat_lit 0x374, nat_lit 0x375⟩,
     ⟨nat_lit 0x3E2, nat_lit 0x3EF⟩, ⟨nat_lit 0x2C80, nat_lit 0x2CF3⟩,
     ⟨nat_lit 0x2CF9, nat_lit 0x2CFF⟩, ⟨nat_lit 0x2E17, nat_lit 0x2E17⟩,
     ⟨nat_lit 0x102E0, nat_lit 0x102FB⟩]),
  ("Cuneiform",
    [⟨nat_lit 0x12000, nat_lit 0x12399⟩, ⟨nat_lit 0x12400, nat_lit 0x1246E⟩,
     ⟨nat_lit 0x12470, nat_lit 0x12474⟩, ⟨nat_lit 0x12480, nat_lit 0x12543⟩]),
  ("Cypriot",
    [⟨nat_lit 0x10100, nat_lit 0x10102⟩, ⟨nat_lit 0x10107, nat_lit 0x10133⟩,
     ⟨nat_lit 0x10137, nat_lit 0x1013F⟩, ⟨nat_lit 0x10800, nat_lit 0x10805⟩,
     ⟨nat_lit 0x10808, nat_lit 0x10808⟩, ⟨nat_lit 0x1080A, nat_lit 0x10835⟩,
     ⟨nat_lit 0x10837, nat_lit 0x10838⟩, ⟨nat_lit 0x1083C, nat_lit 0x1083C⟩,
     ⟨nat_lit 0x1083F, nat_lit 0x1083F⟩]),
  ("Cypro_Minoan",
    [⟨nat_lit 0x10100, nat_lit 0x10101⟩, ⟨nat_lit 0x12F90, nat_lit 0x12FF2⟩]),
  ("Cyrillic",
    [⟨nat_lit 0x2BC, nat_lit 0x2BC⟩, ⟨nat_lit 0x300, nat_lit 0x302⟩,
     ⟨nat_lit 0x304, nat_lit 0x304⟩, ⟨nat_lit 0x306, nat_lit 0x306⟩,
     ⟨nat_lit 0x308, nat_lit 0x308⟩, ⟨nat_lit 0x30B, nat_lit 0x30B⟩,
     ⟨nat_lit 0x311, nat_lit 0x311⟩, ⟨nat_lit 0x400, nat_lit 0x52F⟩,
     ⟨nat_lit 0x1C80, nat_lit 0x1C8A⟩, ⟨nat_lit 0x1D2B, nat_lit 0x1D2B⟩,
     ⟨nat_lit 0x1D78, nat_lit 0x1D78⟩, ⟨nat_lit 0x1DF8, nat_lit 0x1DF8⟩,
     ⟨nat_lit 0x2DE0, nat_lit 0x2DFF⟩, ⟨nat_lit 0x2E43, nat_lit 0x2E43⟩,
     ⟨nat_lit 0xA640, nat_lit 0xA69F⟩, ⟨nat_lit 0xFE2E, nat_lit 0xFE2F⟩,
     ⟨nat_lit 0x1E030, nat_lit 0x1E06D⟩, ⟨nat_lit 0x1E08F, nat_lit 0x1E08F⟩]),
  ("Deseret",
    [⟨nat_lit 0x10400, nat_lit 0x1044F⟩]),
  ("Devanagari",
    [⟨nat_lit 0x2BC, nat_lit 0x2BC⟩, ⟨nat_lit 0x900, nat_lit 0x952⟩,
     ⟨nat_lit 0x955, nat_lit 0x97F⟩, ⟨nat_lit 0x1CD0, nat_lit 0x1CF6⟩,
     ⟨nat_lit 0x1CF8, nat_lit 0x1CF9⟩, ⟨nat_lit 0x20F0, nat_lit 0x20F0⟩,
     ⟨nat_lit 0xA830, nat_lit 0xA839⟩, ⟨nat_lit 0xA8E0, nat_lit 0xA8FF⟩,
     ⟨nat_lit 0x11B00, nat_lit 0x11B09⟩]),
  ("Dives_Akuru",
    [⟨nat_lit 0x11900, nat_lit 0x11906⟩, ⟨nat_lit 0x11909, nat_lit 0x11909⟩,
     ⟨nat_lit 0x1190C, nat_lit 0x11913⟩, ⟨nat_lit 0x11915, nat_lit 0x11916⟩,
     ⟨nat_lit 0x11918, nat_lit 0x11935⟩, ⟨nat_lit 0x11937, nat_lit 0x11938⟩,
     ⟨nat_lit 0x1193B, nat_lit 0x11946⟩, ⟨nat_lit 0x11950, nat_lit 0x11959⟩]),
  ("Dogra",
    [⟨nat_lit 0x964, nat_lit 0x96F⟩, ⟨nat_lit 0xA830, nat_lit 0xA839⟩,
     ⟨nat_lit 0x11800, nat_lit 0x1183B⟩]),
  ("Duployan",
    [⟨nat_lit 0xB7, nat_lit 0xB7⟩, ⟨nat_lit 0x307, nat_lit 0x308⟩, ⟨nat_lit 0x30A, nat_lit 0x30A⟩,
     ⟨nat_lit 0x323, nat_lit 0x324⟩, ⟨nat_lit 0x2E3C, nat_lit 0x2E3C⟩,
     ⟨nat_lit 0x1BC00, nat_lit 0x1BC6A⟩, ⟨nat_lit 0x1BC70, nat_lit 0x1BC7C⟩,
     ⟨nat_lit 0x1BC80, nat_lit 0x1BC88⟩, ⟨nat_lit 0x1BC90, nat_lit 0x1BC99⟩,
     ⟨nat_lit 0x1BC9C, nat_lit 0x1BCA3⟩]),
  ("Egyptian_Hieroglyphs",
    [⟨nat_lit 0x13000, nat_lit 0x13455⟩, ⟨nat_lit 0x13460, nat_lit 0x143FA⟩]),
  ("Elbasan",
    [⟨nat_lit 0xB7, nat_lit 0xB7⟩, ⟨nat_lit 0x305, nat_lit 0x305⟩,
     ⟨nat_lit 0x10500, nat_lit 0x10527⟩]),
  ("Elymaic",
    [⟨nat_lit 0x10FE0, nat_lit 0x10FF6⟩]),
  ("Ethiopic",
    [⟨nat_lit 0x30E, nat_lit 0x30E⟩, ⟨nat_lit 0x1200, nat_lit 0x1248⟩,
     ⟨nat_lit 0x124A, nat_lit 0x124D⟩, ⟨nat_lit 0x1250, nat_lit 0x1256⟩,
     ⟨nat_lit 0x1258, nat_lit 0x1258⟩, ⟨nat_lit 0x125A, nat_lit 0x125D⟩,
     ⟨nat_lit 0x1260, nat_lit 0x1288⟩, ⟨nat_lit 0x128A, nat_lit 0x128D⟩,
     ⟨nat_lit 0x1290, nat_lit 0x12B0⟩, ⟨nat_lit 0x12B2, nat_lit 0x12B5⟩,
     ⟨nat_lit 0x12B8, nat_lit 0x12BE⟩, ⟨nat_lit 0x12C0, nat_lit 0x12C0⟩,
     ⟨nat_lit 0x12C2, nat_lit 0x12C5⟩, ⟨nat_lit 0x12C8, nat_lit 0x12D6⟩,
     ⟨nat_lit 0x12D8, nat_lit 0x1310⟩, ⟨nat_lit 0x1312, nat_lit 0x1315⟩,
     ⟨nat_lit 0x1318, nat_lit 0x135A⟩, ⟨nat_lit 0x135D, nat_lit 0x137C⟩,
     ⟨nat_lit 0x1380, nat_lit 0x1399⟩, ⟨nat_lit 0x2D80, nat_lit 0x2D96⟩,
     ⟨nat_lit 0x2DA0, nat_lit 0x2DA6⟩, ⟨nat_lit 0x2DA8, nat_lit 0x2DAE⟩,
     ⟨nat_lit 0x2DB0, nat_lit 0x2DB6⟩, ⟨nat_lit 0x2DB8, nat_lit 0x2DBE⟩,
     ⟨nat_lit 0x2DC0, nat_lit 0x2DC6⟩, ⟨nat_lit 0x2DC8, nat_lit 0x2DCE⟩,
     ⟨nat_lit 0x2DD0, nat_lit 0x2DD6⟩, ⟨nat_lit 0x2DD8, nat_lit 0x2DDE⟩,
     ⟨nat_lit 0xAB01, nat_lit 0xAB06⟩, ⟨nat_lit 0xAB09, nat_lit 0xAB0E⟩,
     ⟨nat_lit 0xAB11, nat_lit 0xAB16⟩, ⟨nat_lit 0xAB20, nat_lit 0xAB26⟩,
     ⟨nat_lit 0xAB28, nat_lit 0xAB2E⟩, ⟨nat_lit 0x1E7E0, nat_lit 0x1E7E6⟩,
     ⟨nat_lit 0x1E7E8, nat_lit 0x1E7EB⟩, ⟨nat_lit 0x1E7ED, nat_lit 0x1E7EE⟩,
     ⟨nat_lit 0x1E7F0, nat_lit 0x1E7FE⟩]),
  ("Garay",
    [⟨nat_lit 0x60C, nat_lit 0x60C⟩, ⟨nat_lit 0x61B, nat_lit 0x61B⟩,
     ⟨nat_lit 0x61F, nat_lit 0x61F⟩, ⟨nat_lit 0x10D40, nat_lit 0x10D65⟩,
     ⟨nat_lit 0x10D69, nat_lit 0x10D85⟩, ⟨nat_lit 0x10D8E, nat_lit 0x10D8F⟩]),
  ("Georgian",
    [⟨nat_lit 0xB7, nat_lit 0xB7⟩, ⟨nat_lit 0x589, nat_lit 0x589⟩,
     ⟨nat_lit 0x10A0, nat_lit 0x10C5⟩, ⟨nat_lit 0x10C7, nat_lit 0x10C7⟩,
     ⟨nat_lit 0x10CD, nat_lit 0x10CD⟩, ⟨nat_lit 0x10D0, nat_lit 0x10FF⟩,
     ⟨nat_lit 0x1C90, nat_lit 0x1CBA⟩, ⟨nat_lit 0x1CBD, nat_lit 0x1CBF⟩,
     ⟨nat_lit 0x205A, nat_lit 0x205A⟩, ⟨nat_lit 0x2D00, nat_lit 0x2D25⟩,
     ⟨nat_lit 0x2D27, nat_lit 0x2D27⟩, ⟨nat_lit 0x2D2D, nat_lit 0x2D2D⟩,
     ⟨nat_lit 0x2E31, nat_lit 0x2E31⟩]),
  ("Glagolitic",
    [⟨nat_lit 0xB7, nat_lit 0xB7⟩, ⟨nat_lit 0x303, nat_lit 0x303⟩, ⟨nat_lit 0x305, nat_lit 0x305⟩,
     ⟨nat_lit 0x484, nat_lit 0x484⟩, ⟨nat_lit 0x487, nat_lit 0x487⟩,
     ⟨nat_lit 0x589, nat_lit 0x589⟩, ⟨nat_lit 0x10FB, nat_lit 0x10FB⟩,
     ⟨nat_lit 0x205A, nat_lit 0x205A⟩, ⟨nat_lit 0x2C00, nat_lit 0x2C5F⟩,
     ⟨nat_lit 0x2E43, nat_lit 0x2E43⟩, ⟨nat_lit 0xA66F, nat_lit 0xA66F⟩,
     ⟨nat_lit 0x1E000, nat_lit 0x1E006⟩, ⟨nat_lit 0x1E008, nat_lit 0x1E018⟩,
     ⟨nat_lit 0x1E01B, nat_lit 0x1E021⟩, ⟨nat_lit 0x1E023, nat_lit 0x1E024⟩,
     ⟨nat_lit 0x1E026, nat_lit 0x1E02A⟩]),
  ("Gothic",
    [⟨nat_lit 0xB7, nat_lit 0xB7⟩, ⟨nat_lit 0x304, nat_lit 0x305⟩, ⟨nat_lit 0x308, nat_lit 0x308⟩,
     ⟨nat_lit 0x331, nat_lit 0x331⟩, ⟨nat_lit 0x10330, nat_lit 0x1034A⟩]),
  ("Grantha",
    [⟨nat_lit 0x951, nat_lit 0x952⟩, ⟨nat_lit 0x964, nat_lit 0x965⟩,
     ⟨nat_lit 0xBE6, nat_lit 0xBF3⟩, ⟨nat_lit 0x1CD0, nat_lit 0x1CD0⟩,
     ⟨nat_lit 0x1CD2, nat_lit 0x1CD3⟩, ⟨nat_lit 0x1CF2, nat_lit 0x1CF4⟩,
     ⟨nat_lit 0x1CF8, nat_lit 0x1CF9⟩, ⟨nat_lit 0x20F0, nat_lit 0x20F0⟩,
     ⟨nat_lit 0x11300, nat_lit 0x11303⟩, ⟨nat_lit 0x11305, nat_lit 0x1130C⟩,
     ⟨nat_lit 0x1130F, nat_lit 0x11310⟩, ⟨nat_lit 0x11313, nat_lit 0x11328⟩,
     ⟨nat_lit 0x1132A, nat_lit 0x11330⟩, ⟨nat_lit 0x11332, nat_lit 0x11333⟩,
     ⟨nat_lit 0x11335, nat_lit 0x11339⟩, ⟨nat_lit 0x1133B, nat_lit 0x11344⟩,
     ⟨nat_lit 0x11347, nat_lit 0x11348⟩, ⟨nat_lit 0x1134B, nat_lit 0x1134D⟩,
     ⟨nat_lit 0x11350, nat_lit 0x11350⟩, ⟨nat_lit 0x11357, nat_lit 0x11357⟩,
     ⟨nat_lit 0x1135D, nat_lit 0x11363⟩, ⟨nat_lit 0x11366, nat_lit 0x1136C⟩,
     ⟨nat_lit 0x11370, nat_lit 0x11374⟩, ⟨nat_lit 0x11FD0, nat_lit 0x11FD1⟩,
     ⟨nat_lit 0x11FD3, nat_lit 0x11FD3⟩]),
  ("Greek",
    [⟨nat_lit 0xB7, nat_lit 0xB7⟩, ⟨nat_lit 0x300, nat_lit 0x301⟩, ⟨nat_lit 0x304, nat_lit 0x304⟩,
     ⟨nat_lit 0x306, nat_lit 0x306⟩, ⟨nat_lit 0x308, nat_lit 0x308⟩,
     ⟨nat_lit 0x313, nat_lit 0x313⟩, ⟨nat_lit 0x342, nat_lit 0x342⟩,
     ⟨nat_lit 0x345, nat_lit 0x345⟩, ⟨nat_lit 0x370, nat_lit 0x377⟩,
     ⟨nat_lit 0x37A, nat_lit 0x37D⟩, ⟨nat_lit 0x37F, nat_lit 0x37F⟩,
     ⟨nat_lit 0x384, nat_lit 0x384⟩, ⟨nat_lit 0x386, nat_lit 0x386⟩,
     ⟨nat_lit 0x388, nat_lit 0x38A⟩, ⟨nat_lit 0x38C, nat_lit 0x38C⟩,
     ⟨nat_lit 0x38E, nat_lit 0x3A1⟩, ⟨nat_lit 0x3A3, nat_lit 0x3E1⟩,
     ⟨nat_lit 0x3F0, nat_lit 0x3FF⟩, ⟨nat_lit 0x1D26, nat_lit 0x1D2A⟩,
     ⟨nat_lit 0x1D5D, nat_lit 0x1D61⟩, ⟨nat_lit 0x1D66, nat_lit 0x1D6A⟩,
     ⟨nat_lit 0x1DBF, nat_lit 0x1DC1⟩, ⟨nat_lit 0x1F00, nat_lit 0x1F15⟩,
     ⟨nat_lit 0x1F18, nat_lit 0x1F1D⟩, ⟨nat_lit 0x1F20, nat_lit 0x1F45⟩,
     ⟨nat_lit 0x1F48, nat_lit 0x1F4D⟩, ⟨nat_lit 0x1F50, nat_lit 0x1F57⟩,
     ⟨nat_lit 0x1F59, nat_lit 0x1F59⟩, ⟨nat_lit 0x1F5B, nat_lit 0x1F5B⟩,
     ⟨nat_lit 0x1F5D, nat_lit 0x1F5D⟩, ⟨nat_lit 0x1F5F, nat_lit 0x1F7D⟩,
     ⟨nat_lit 0x1F80, nat_lit 0x1FB4⟩, ⟨nat_lit 0x1FB6, nat_lit 0x1FC4⟩,
     ⟨nat_lit 0x1FC6, nat_lit 0x1FD3⟩, ⟨nat_lit 0x1FD6, nat_lit 0x1FDB⟩,
     ⟨nat_lit 0x1FDD, nat_lit 0x1FEF⟩, ⟨nat_lit 0x1FF2, nat_lit 0x1FF4⟩,
     ⟨nat_lit 0x1FF6, nat_lit 0x1FFE⟩, ⟨nat_lit 0x205D, nat_lit 0x205D⟩,
     ⟨nat_lit 0x2126, nat_lit 0x2126⟩, ⟨nat_lit 0xAB65, nat_lit 0xAB65⟩,
     ⟨nat_lit 0x10140, nat_lit 0x1018E⟩, ⟨nat_lit 0x101A0, nat_lit 0x101A0⟩,
     ⟨nat_lit 0x1D200, nat_lit 0x1D245⟩]),
  ("Gujarati",
    [⟨nat_lit 0x951, nat_lit 0x952⟩, ⟨nat_lit 0x964, nat_lit 0x965⟩,
     ⟨nat_lit 0xA81, nat_lit 0xA83⟩, ⟨nat_lit 0xA85, nat_lit 0xA8D⟩,
     ⟨nat_lit 0xA8F, nat_lit 0xA91⟩, ⟨nat_lit 0xA93, nat_lit 0xAA8⟩,
     ⟨nat_lit 0xAAA, nat_lit 0xAB0⟩, ⟨nat_lit 0xAB2, nat_lit 0xAB3⟩,
     ⟨nat_lit 0xAB5, nat_lit 0xAB9⟩, ⟨nat_lit 0xABC, nat_lit 0xAC5⟩,
     ⟨nat_lit 0xAC7, nat_lit 0xAC9⟩, ⟨nat_lit 0xACB, nat_lit 0xACD⟩,
     ⟨nat_lit 0xAD0, nat_lit 0xAD0⟩, ⟨nat_lit 0xAE0, nat_lit 0xAE3⟩,
     ⟨nat_lit 0xAE6, nat_lit 0xAF1⟩, ⟨nat_lit 0xAF9, nat_lit 0xAFF⟩,
     ⟨nat_lit 0xA830, nat_lit 0xA839⟩]),
  ("Gunjala_Gondi",
    [⟨nat_lit 0xB7, nat_lit 0xB7⟩, ⟨nat_lit 0x964, nat_lit 0x965⟩,
     ⟨nat_lit 0x11D60, nat_lit 0x11D65⟩, ⟨nat_lit 0x11D67, nat_lit 0x11D68⟩,
     ⟨nat_lit 0x11D6A, nat_lit 0x11D8E⟩, ⟨nat_lit 0x11D90, nat_lit 0x11D91⟩,
     ⟨nat_lit 0x11D93, nat_lit 0x11D98⟩, ⟨nat_lit 0x11DA0, nat_lit 0x11DA9⟩]),
  ("Gurmukhi",
    [⟨nat_lit 0x951, nat_lit 0x952⟩, ⟨nat_lit 0x964, nat_lit 0x965⟩,
     ⟨nat_lit 0xA01, nat_lit 0xA03⟩, ⟨nat_lit 0xA05, nat_lit 0xA0A⟩,
     ⟨nat_lit 0xA0F, nat_lit 0xA10⟩, ⟨nat_lit 0xA13, nat_lit 0xA28⟩,
     ⟨nat_lit 0xA2A, nat_lit 0xA30⟩, ⟨nat_lit 0xA32, nat_lit 0xA33⟩,
     ⟨nat_lit 0xA35, nat_lit 0xA36⟩, ⟨nat_lit 0xA38, nat_lit 0xA39⟩,
     ⟨nat_lit 0xA3C, nat_lit 0xA3C⟩, ⟨nat_lit 0xA3E, nat_lit 0xA42⟩,
     ⟨nat_lit 0xA47, nat_lit 0xA48⟩, ⟨nat_lit 0xA4B, nat_lit 0xA4D⟩,
     ⟨nat_lit 0xA51, nat_lit 0xA51⟩, ⟨nat_lit 0xA59, nat_lit 0xA5C⟩,
     ⟨nat_lit 0xA5E, nat_lit 0xA5E⟩, ⟨nat_lit 0xA66, nat_lit 0xA76⟩,
     ⟨nat_lit 0xA830, nat_lit 0xA839⟩]),
  ("Gurung_Khema",
    [⟨nat_lit 0x965, nat_lit 0x965⟩, ⟨nat_lit 0x16100, nat_lit 0x16139⟩]),
  ("Han",
    [⟨nat_lit 0xB7, nat_lit 0xB7⟩, ⟨nat_lit 0x2E80, nat_lit 0x2E99⟩,
     ⟨nat_lit 0x2E9B, nat_lit 0x2EF3⟩, ⟨nat_lit 0x2F00, nat_lit 0x2FD5⟩,
     ⟨nat_lit 0x2FF0, nat_lit 0x2FFF⟩, ⟨nat_lit 0x3001, nat_lit 0x3003⟩,
     ⟨nat_lit 0x3005, nat_lit 0x3011⟩, ⟨nat_lit 0x3013, nat_lit 0x301F⟩,
     ⟨nat_lit 0x3021, nat_lit 0x302D⟩, ⟨nat_lit 0x3030, nat_lit 0x3030⟩,
     ⟨nat_lit 0x3037, nat_lit 0x303F⟩, ⟨nat_lit 0x30FB, nat_lit 0x30FB⟩,
     ⟨nat_lit 0x3190, nat_lit 0x319F⟩, ⟨nat_lit 0x31C0, nat_lit 0x31E5⟩,
     ⟨nat_lit 0x31EF, nat_lit 0x31EF⟩, ⟨nat_lit 0x3220, nat_lit 0x3247⟩,
     ⟨nat_lit 0x3280, nat_lit 0x32B0⟩, ⟨nat_lit 0x32C0, nat_lit 0x32CB⟩,
     ⟨nat_lit 0x32FF, nat_lit 0x32FF⟩, ⟨nat_lit 0x3358, nat_lit 0x3370⟩,
     ⟨nat_lit 0x337B, nat_lit 0x337F⟩, ⟨nat_lit 0x33E0, nat_lit 0x33FE⟩,
     ⟨nat_lit 0x3400, nat_lit 0x4DBF⟩, ⟨nat_lit 0x4E00, nat_lit 0x9FFF⟩,
     ⟨nat_lit 0xA700, nat_lit 0xA707⟩, ⟨nat_lit 0xF900, nat_lit 0xFA6D⟩,
     ⟨nat_lit 0xFA70, nat_lit 0xFAD9⟩, ⟨nat_lit 0xFE45, nat_lit 0xFE46⟩,
     ⟨nat_lit 0xFF61, nat_lit 0xFF65⟩, ⟨nat_lit 0x16FE2, nat_lit 0x16FE3⟩,
     ⟨nat_lit 0x16FF0, nat_lit 0x16FF1⟩, ⟨nat_lit 0x1D360, nat_lit 0x1D371⟩,
     ⟨nat_lit 0x1F250, nat_lit 0x1F251⟩, ⟨nat_lit 0x20000, nat_lit 0x2A6DF⟩,
     ⟨nat_lit 0x2A700, nat_lit 0x2B739⟩, ⟨nat_lit 0x2B740, nat_lit 0x2B81D⟩,
     ⟨nat_lit 0x2B820, nat_lit 0x2CEA1⟩, ⟨nat_lit 0x2CEB0, nat_lit 0x2EBE0⟩,
     ⟨nat_lit 0x2EBF0, nat_lit 0x2EE5D⟩, ⟨nat_lit 0x2F800, nat_lit 0x2FA1D⟩,
     ⟨nat_lit 0x30000, nat_lit 0x3134A⟩, ⟨nat_lit 0x31350, nat_lit 0x323AF⟩]),
  ("Hangul",
    [⟨nat_lit 0x1100, nat_lit 0x11FF⟩, ⟨nat_lit 0x3001, nat_lit 0x3003⟩,
     ⟨nat_lit 0x3008, nat_lit 0x3011⟩, ⟨nat_lit 0x3013, nat_lit 0x301F⟩,
     ⟨nat_lit 0x302E, nat_lit 0x3030⟩, ⟨nat_lit 0x3037, nat_lit 0x3037⟩,
     ⟨nat_lit 0x30FB, nat_lit 0x30FB⟩, ⟨nat_lit 0x3131, nat_lit 0x318E⟩,
     ⟨nat_lit 0x3200, nat_lit 0x321E⟩, ⟨nat_lit 0x3260, nat_lit 0x327E⟩,
     ⟨nat_lit 0xA960, nat_lit 0xA97C⟩, ⟨nat_lit 0xAC00, nat_lit 0xD7A3⟩,
     ⟨nat_lit 0xD7B0, nat_lit 0xD7C6⟩, ⟨nat_lit 0xD7CB, nat_lit 0xD7FB⟩,
     ⟨nat_lit 0xFE45, nat_lit 0xFE46⟩, ⟨nat_lit 0xFF61, nat_lit 0xFF65⟩,
     ⟨nat_lit 0xFFA0, nat_lit 0xFFBE⟩, ⟨nat_lit 0xFFC2, nat_lit 0xFFC7⟩,
     ⟨nat_lit 0xFFCA, nat_lit 0xFFCF⟩, ⟨nat_lit 0xFFD2, nat_lit 0xFFD7⟩,
     ⟨nat_lit 0xFFDA, nat_lit 0xFFDC⟩]),
  ("Hanifi_Rohingya",
    [⟨nat_lit 0x60C, nat_lit 0x60C⟩, ⟨nat_lit 0x61B, nat_lit 0x61B⟩,
     ⟨nat_lit 0x61F, nat_lit 0x61F⟩, ⟨nat_lit 0x640, nat_lit 0x640⟩,
     ⟨nat_lit 0x6D4, nat_lit 0x6D4⟩, ⟨nat_lit 0x10D00, nat_lit 0x10D27⟩,
     ⟨nat_lit 0x10D30, nat_lit 0x10D39⟩]),
  ("Hanunoo",
    [⟨nat_lit 0x1720, nat_lit 0x1736⟩]),
  ("Hatran",
    [⟨nat_lit 0x108E0, nat_lit 0x108F2⟩, ⟨nat_lit 0x108F4, nat_lit 0x108F5⟩,
     ⟨nat_lit 0x108FB, nat_lit 0x108FF⟩]),
  ("Hebrew",
    [⟨nat_lit 0x307, nat_lit 0x308⟩, ⟨nat_lit 0x591, nat_lit 0x5C7⟩,
     ⟨nat_lit 0x5D0, nat_lit 0x5EA⟩, ⟨nat_lit 0x5EF, nat_lit 0x5F4⟩,
     ⟨nat_lit 0xFB1D, nat_lit 0xFB36⟩, ⟨nat_lit 0xFB38, nat_lit 0xFB3C⟩,
     ⟨nat_lit 0xFB3E, nat_lit 0xFB3E⟩, ⟨nat_lit 0xFB40, nat_lit 0xFB41⟩,
     ⟨nat_lit 0xFB43, nat_lit 0xFB44⟩, ⟨nat_lit 0xFB46, nat_lit 0xFB4F⟩]),
  ("Hiragana",
    [⟨nat_lit 0x3001, nat_lit 0x3003⟩, ⟨nat_lit 0x3008, nat_lit 0x3011⟩,
     ⟨nat_lit 0x3013, nat_lit 0x301F⟩, ⟨nat_lit 0x3030, nat_lit 0x3035⟩,
     ⟨nat_lit 0x3037, nat_lit 0x3037⟩, ⟨nat_lit 0x303C, nat_lit 0x303D⟩,
     ⟨nat_lit 0x3041, nat_lit 0x3096⟩, ⟨nat_lit 0x3099, nat_lit 0x30A0⟩,
     ⟨nat_lit 0x30FB, nat_lit 0x30FC⟩, ⟨nat_lit 0xFE45, nat_lit 0xFE46⟩,
     ⟨nat_lit 0xFF61, nat_lit 0xFF65⟩, ⟨nat_lit 0xFF70, nat_lit 0xFF70⟩,
     ⟨nat_lit 0xFF9E, nat_lit 0xFF9F⟩, ⟨nat_lit 0x1B001, nat_lit 0x1B11F⟩,
     ⟨nat_lit 0x1B132, nat_lit 0x1B132⟩, ⟨nat_lit 0x1B150, nat_lit 0x1B152⟩,
     ⟨nat_lit 0x1F200, nat_lit 0x1F200⟩]),
  ("Imperial_Aramaic",
    [⟨nat_lit 0x10840, nat_lit 0x10855⟩, ⟨nat_lit 0x10857, nat_lit 0x1085F⟩]),
  ("Inherited",
    [⟨nat_lit 0x30F, nat_lit 0x30F⟩, ⟨nat_lit 0x312, nat_lit 0x312⟩,
     ⟨nat_lit 0x314, nat_lit 0x31F⟩, ⟨nat_lit 0x321, nat_lit 0x322⟩,
     ⟨nat_lit 0x326, nat_lit 0x32C⟩, ⟨nat_lit 0x32F, nat_lit 0x32F⟩,
     ⟨nat_lit 0x332, nat_lit 0x341⟩, ⟨nat_lit 0x343, nat_lit 0x344⟩,
     ⟨nat_lit 0x346, nat_lit 0x357⟩, ⟨nat_lit 0x359, nat_lit 0x35D⟩,
     ⟨nat_lit 0x35F, nat_lit 0x362⟩, ⟨nat_lit 0x953, nat_lit 0x954⟩,
     ⟨nat_lit 0x1AB0, nat_lit 0x1ACE⟩, ⟨nat_lit 0x1DC2, nat_lit 0x1DF7⟩,
     ⟨nat_lit 0x1DF9, nat_lit 0x1DF9⟩, ⟨nat_lit 0x1DFB, nat_lit 0x1DFF⟩,
     ⟨nat_lit 0x200C, nat_lit 0x200D⟩, ⟨nat_lit 0x20D0, nat_lit 0x20EF⟩,
     ⟨nat_lit 0xFE00, nat_lit 0xFE0F⟩, ⟨nat_lit 0xFE20, nat_lit 0xFE2D⟩,
     ⟨nat_lit 0x101FD, nat_lit 0x101FD⟩, ⟨nat_lit 0x1CF00, nat_lit 0x1CF2D⟩,
     ⟨nat_lit 0x1CF30, nat_lit 0x1CF46⟩, ⟨nat_lit 0x1D167, nat_lit 0x1D169⟩,
     ⟨nat_lit 0x1D17B, nat_lit 0x1D182⟩, ⟨nat_lit 0x1D185, nat_lit 0x1D18B⟩,
     ⟨nat_lit 0x1D1AA, nat_lit 0x1D1AD⟩, ⟨nat_lit 0xE0100, nat_lit 0xE01EF⟩]),
  ("Inscriptional_Pahlavi",
    [⟨nat_lit 0x10B60, nat_lit 0x10B72⟩, ⟨nat_lit 0x10B78, nat_lit 0x10B7F⟩]),
  ("Inscriptional_Parthian",
    [⟨nat_lit 0x10B40, nat_lit 0x10B55⟩, ⟨nat_lit 0x10B58, nat_lit 0x10B5F⟩]),
  ("Javanese",
    [⟨nat_lit 0xA980, nat_lit 0xA9CD⟩, ⟨nat_lit 0xA9CF, nat_lit 0xA9D9⟩,
     ⟨nat_lit 0xA9DE, nat_lit 0xA9DF⟩]),
  ("Kaithi",
    [⟨nat_lit 0x966, nat_lit 0x96F⟩, ⟨nat_lit 0x2E31, nat_lit 0x2E31⟩,
     ⟨nat_lit 0xA830, nat_lit 0xA839⟩, ⟨nat_lit 0x11080, nat_lit 0x110C2⟩,
     ⟨nat_lit 0x110CD, nat_lit 0x110CD⟩]),
  ("Kannada",
    [⟨nat_lit 0x951, nat_lit 0x952⟩, ⟨nat_lit 0x964, nat_lit 0x965⟩,
     ⟨nat_lit 0xC80, nat_lit 0xC8C⟩, ⟨nat_lit 0xC8E, nat_lit 0xC90⟩,
     ⟨nat_lit 0xC92, nat_lit 0xCA8⟩, ⟨nat_lit 0xCAA, nat_lit 0xCB3⟩,
     ⟨nat_lit 0xCB5, nat_lit 0xCB9⟩, ⟨nat_lit 0xCBC, nat_lit 0xCC4⟩,
     ⟨nat_lit 0xCC6, nat_lit 0xCC8⟩, ⟨nat_lit 0xCCA, nat_lit 0xCCD⟩,
     ⟨nat_lit 0xCD5, nat_lit 0xCD6⟩, ⟨nat_lit 0xCDD, nat_lit 0xCDE⟩,
     ⟨nat_lit 0xCE0, nat_lit 0xCE3⟩, ⟨nat_lit 0xCE6, nat_lit 0xCEF⟩,
     ⟨nat_lit 0xCF1, nat_lit 0xCF3⟩, ⟨nat_lit 0x1CD0, nat_lit 0x1CD0⟩,
     ⟨nat_lit 0x1CD2, nat_lit 0x1CD3⟩, ⟨nat_lit 0x1CDA, nat_lit 0x1CDA⟩,
     ⟨nat_lit 0x1CF2, nat_lit 0x1CF2⟩, ⟨nat_lit 0x1CF4, nat_lit 0x1CF4⟩,
     ⟨nat_lit 0xA830, nat_lit 0xA835⟩]),
  ("Katakana",
    [⟨nat_lit 0x305, nat_lit 0x305⟩, ⟨nat_lit 0x323, nat_lit 0x323⟩,
     ⟨nat_lit 0x3001, nat_lit 0x3003⟩, ⟨nat_lit 0x3008, nat_lit 0x3011⟩,
     ⟨nat_lit 0x3013, nat_lit 0x301F⟩, ⟨nat_lit 0x3030, nat_lit 0x3035⟩,
     ⟨nat_lit 0x3037, nat_lit 0x3037⟩, ⟨nat_lit 0x303C, nat_lit 0x303D⟩,
     ⟨nat_lit 0x3099, nat_lit 0x309C⟩, ⟨nat_lit 0x30A0, nat_lit 0x30FF⟩,
     ⟨nat_lit 0x31F0, nat_lit 0x31FF⟩, ⟨nat_lit 0x32D0, nat_lit 0x32FE⟩,
     ⟨nat_lit 0x3300, nat_lit 0x3357⟩, ⟨nat_lit 0xFE45, nat_lit 0xFE46⟩,
     ⟨nat_lit 0xFF61, nat_lit 0xFF9F⟩, ⟨nat_lit 0x1AFF0, nat_lit 0x1AFF3⟩,
     ⟨nat_lit 0x1AFF5, nat_lit 0x1AFFB⟩, ⟨nat_lit 0x1AFFD, nat_lit 0x1AFFE⟩,
     ⟨nat_lit 0x1B000, nat_lit 0x1B000⟩, ⟨nat_lit 0x1B120, nat_lit 0x1B122⟩,
     ⟨nat_lit 0x1B155, nat_lit 0x1B155⟩, ⟨nat_lit 0x1B164, nat_lit 0x1B167⟩]),
  ("Kawi",
    [⟨nat_lit 0x11F00, nat_lit 0x11F10⟩, ⟨nat_lit 0x11F12, nat_lit 0x11F3A⟩,
     ⟨nat_lit 0x11F3E, nat_lit 0x11F5A⟩]),
  ("Kayah_Li",
    [⟨nat_lit 0xA900, nat_lit 0xA92F⟩]),
  ("Kharoshthi",
    [⟨nat_lit 0x10A00, nat_lit 0x10A03⟩, ⟨nat_lit 0x10A05, nat_lit 0x10A06⟩,
     ⟨nat_lit 0x10A0C, nat_lit 0x10A13⟩, ⟨nat_lit 0x10A15, nat_lit 0x10A17⟩,
     ⟨nat_lit 0x10A19, nat_lit 0x10A35⟩, ⟨nat_lit 0x10A38, nat_lit 0x10A3A⟩,
     ⟨nat_lit 0x10A3F, nat_lit 0x10A48⟩, ⟨nat_lit 0x10A50, nat_lit 0x10A58⟩]),
  ("Khitan_Small_Script",
    [⟨nat_lit 0x16FE4, nat_lit 0x16FE4⟩, ⟨nat_lit 0x18B00, nat_lit 0x18CD5⟩,
     ⟨nat_lit 0x18CFF, nat_lit 0x18CFF⟩]),
  ("Khmer",
    [⟨nat_lit 0x1780, nat_lit 0x17DD⟩, ⟨nat_lit 0x17E0, nat_lit 0x17E9⟩,
     ⟨nat_lit 0x17F0, nat_lit 0x17F9⟩, ⟨nat_lit 0x19E0, nat_lit 0x19FF⟩]),
  ("Khojki",
    [⟨nat_lit 0xAE6, nat_lit 0xAEF⟩, ⟨nat_lit 0xA830, nat_lit 0xA839⟩,
     ⟨nat_lit 0x11200, nat_lit 0x11211⟩, ⟨nat_lit 0x11213, nat_lit 0x11241⟩]),
  ("Khudawadi",
    [⟨nat_lit 0x964, nat_lit 0x965⟩, ⟨nat_lit 0xA830, nat_lit 0xA839⟩,
     ⟨nat_lit 0x112B0, nat_lit 0x112EA⟩, ⟨nat_lit 0x112F0, nat_lit 0x112F9⟩]),
  ("Kirat_Rai",
    [⟨nat_lit 0x16D40, nat_lit 0x16D79⟩]),
  ("Lao",
    [⟨nat_lit 0xE81, nat_lit 0xE82⟩, ⟨nat_lit 0xE84, nat_lit 0xE84⟩,
     ⟨nat_lit 0xE86, nat_lit 0xE8A⟩, ⟨nat_lit 0xE8C, nat_lit 0xEA3⟩,
     ⟨nat_lit 0xEA5, nat_lit 0xEA5⟩, ⟨nat_lit 0xEA7, nat_lit 0xEBD⟩,
     ⟨nat_lit 0xEC0, nat_lit 0xEC4⟩, ⟨nat_lit 0xEC6, nat_lit 0xEC6⟩,
     ⟨nat_lit 0xEC8, nat_lit 0xECE⟩, ⟨nat_lit 0xED0, nat_lit 0xED9⟩,
     ⟨nat_lit 0xEDC, nat_lit 0xEDF⟩]),
  ("Latin",
    [⟨nat_lit 0x41, nat_lit 0x5A⟩, ⟨nat_lit 0x61, nat_lit 0x7A⟩, ⟨nat_lit 0xAA, nat_lit 0xAA⟩,
     ⟨nat_lit 0xB7, nat_lit 0xB7⟩, ⟨nat_lit 0xBA, nat_lit 0xBA⟩, ⟨nat_lit 0xC0, nat_lit 0xD6⟩,
     ⟨nat_lit 0xD8, nat_lit 0xF6⟩, ⟨nat_lit 0xF8, nat_lit 0x2B8⟩, ⟨nat_lit 0x2BC, nat_lit 0x2BC⟩,
     ⟨nat_lit 0x2C7, nat_lit 0x2C7⟩, ⟨nat_lit 0x2C9, nat_lit 0x2CB⟩,
     ⟨nat_lit 0x2CD, nat_lit 0x2CD⟩, ⟨nat_lit 0x2D7, nat_lit 0x2D7⟩,
     ⟨nat_lit 0x2D9, nat_lit 0x2D9⟩, ⟨nat_lit 0x2E0, nat_lit 0x2E4⟩,
     ⟨nat_lit 0x300, nat_lit 0x30E⟩, ⟨nat_lit 0x310, nat_lit 0x311⟩,
     ⟨nat_lit 0x313, nat_lit 0x313⟩, ⟨nat_lit 0x320, nat_lit 0x320⟩,
     ⟨nat_lit 0x323, nat_lit 0x325⟩, ⟨nat_lit 0x32D, nat_lit 0x32E⟩,
     ⟨nat_lit 0x330, nat_lit 0x331⟩, ⟨nat_lit 0x358, nat_lit 0x358⟩,
     ⟨nat_lit 0x35E, nat_lit 0x35E⟩, ⟨nat_lit 0x363, nat_lit 0x36F⟩,
     ⟨nat_lit 0x485, nat_lit 0x486⟩, ⟨nat_lit 0x951, nat_lit 0x952⟩,
     ⟨nat_lit 0x10FB, nat_lit 0x10FB⟩, ⟨nat_lit 0x1D00, nat_lit 0x1D25⟩,
     ⟨nat_lit 0x1D2C, nat_lit 0x1D5C⟩, ⟨nat_lit 0x1D62, nat_lit 0x1D65⟩,
     ⟨nat_lit 0x1D6B, nat_lit 0x1D77⟩, ⟨nat_lit 0x1D79, nat_lit 0x1DBE⟩,
     ⟨nat_lit 0x1DF8, nat_lit 0x1DF8⟩, ⟨nat_lit 0x1E00, nat_lit 0x1EFF⟩,
     ⟨nat_lit 0x202F, nat_lit 0x202F⟩, ⟨nat_lit 0x2071, nat_lit 0x2071⟩,
     ⟨nat_lit 0x207F, nat_lit 0x207F⟩, ⟨nat_lit 0x2090, nat_lit 0x209C⟩,
     ⟨nat_lit 0x20F0, nat_lit 0x20F0⟩, ⟨nat_lit 0x212A, nat_lit 0x212B⟩,
     ⟨nat_lit 0x2132, nat_lit 0x2132⟩, ⟨nat_lit 0x214E, nat_lit 0x214E⟩,
     ⟨nat_lit 0x2160, nat_lit 0x2188⟩, ⟨nat_lit 0x2C60, nat_lit 0x2C7F⟩,
     ⟨nat_lit 0x2E17, nat_lit 0x2E17⟩, ⟨nat_lit 0xA700, nat_lit 0xA707⟩,
     ⟨nat_lit 0xA722, nat_lit 0xA787⟩, ⟨nat_lit 0xA78B, nat_lit 0xA7CD⟩,
     ⟨nat_lit 0xA7D0, nat_lit 0xA7D1⟩, ⟨nat_lit 0xA7D3, nat_lit 0xA7D3⟩,
     ⟨nat_lit 0xA7D5, nat_lit 0xA7DC⟩, ⟨nat_lit 0xA7F2, nat_lit 0xA7FF⟩,
     ⟨nat_lit 0xA92E, nat_lit 0xA92E⟩, ⟨nat_lit 0xAB30, nat_lit 0xAB5A⟩,
     ⟨nat_lit 0xAB5C, nat_lit 0xAB64⟩, ⟨nat_lit 0xAB66, nat_lit 0xAB69⟩,
     ⟨nat_lit 0xFB00, nat_lit 0xFB06⟩, ⟨nat_lit 0xFF21, nat_lit 0xFF3A⟩,
     ⟨nat_lit 0xFF41, nat_lit 0xFF5A⟩, ⟨nat_lit 0x10780, nat_lit 0x10785⟩,
     ⟨nat_lit 0x10787, nat_lit 0x107B0⟩, ⟨nat_lit 0x107B2, nat_lit 0x107BA⟩,
     ⟨nat_lit 0x1DF00, nat_lit 0x1DF1E⟩, ⟨nat_lit 0x1DF25, nat_lit 0x1DF2A⟩]),
  ("Lepcha",
    [⟨nat_lit 0x1C00, nat_lit 0x1C37⟩, ⟨nat_lit 0x1C3B, nat_lit 0x1C49⟩,
     ⟨nat_lit 0x1C4D, nat_lit 0x1C4F⟩]),
  ("Limbu",
    [⟨nat_lit 0x965, nat_lit 0x965⟩, ⟨nat_lit 0x1900, nat_lit 0x191E⟩,
     ⟨nat_lit 0x1920, nat_lit 0x192B⟩, ⟨nat_lit 0x1930, nat_lit 0x193B⟩,
     ⟨nat_lit 0x1940, nat_lit 0x1940⟩, ⟨nat_lit 0x1944, nat_lit 0x194F⟩]),
  ("Linear_A",
    [⟨nat_lit 0x10107, nat_lit 0x10133⟩, ⟨nat_lit 0x10600, nat_lit 0x10736⟩,
     ⟨nat_lit 0x10740, nat_lit 0x10755⟩, ⟨nat_lit 0x10760, nat_lit 0x10767⟩]),
  ("Linear_B",
    [⟨nat_lit 0x10000, nat_lit 0x1000B⟩, ⟨nat_lit 0x1000D, nat_lit 0x10026⟩,
     ⟨nat_lit 0x10028, nat_lit 0x1003A⟩, ⟨nat_lit 0x1003C, nat_lit 0x1003D⟩,
     ⟨nat_lit 0x1003F, nat_lit 0x1004D⟩, ⟨nat_lit 0x10050, nat_lit 0x1005D⟩,
     ⟨nat_lit 0x10080, nat_lit 0x100FA⟩, ⟨nat_lit 0x10100, nat_lit 0x10102⟩,
     ⟨nat_lit 0x10107, nat_lit 0x10133⟩, ⟨nat_lit 0x10137, nat_lit 0x1013F⟩]),
  ("Lisu",
    [⟨nat_lit 0x2BC, nat_lit 0x2BC⟩, ⟨nat_lit 0x2CD, nat_lit 0x2CD⟩,
     ⟨nat_lit 0x300A, nat_lit 0x300B⟩, ⟨nat_lit 0xA4D0, nat_lit 0xA4FF⟩,
     ⟨nat_lit 0x11FB0, nat_lit 0x11FB0⟩]),
  ("Lycian",
    [⟨nat_lit 0x205A, nat_lit 0x205A⟩, ⟨nat_lit 0x10280, nat_lit 0x1029C⟩]),
  ("Lydian",
    [⟨nat_lit 0xB7, nat_lit 0xB7⟩, ⟨nat_lit 0x2E31, nat_lit 0x2E31⟩,
     ⟨nat_lit 0x10920, nat_lit 0x10939⟩, ⟨nat_lit 0x1093F, nat_lit 0x1093F⟩]),
  ("Mahajani",
    [⟨nat_lit 0xB7, nat_lit 0xB7⟩, ⟨nat_lit 0x964, nat_lit 0x96F⟩,
     ⟨nat_lit 0xA830, nat_lit 0xA839⟩, ⟨nat_lit 0x11150, nat_lit 0x11176⟩]),
  ("Makasar",
    [⟨nat_lit 0x11EE0, nat_lit 0x11EF8⟩]),
  ("Malayalam",
    [⟨nat_lit 0x951, nat_lit 0x952⟩, ⟨nat_lit 0x964, nat_lit 0x965⟩,
     ⟨nat_lit 0xD00, nat_lit 0xD0C⟩, ⟨nat_lit 0xD0E, nat_lit 0xD10⟩,
     ⟨nat_lit 0xD12, nat_lit 0xD44⟩, ⟨nat_lit 0xD46, nat_lit 0xD48⟩,
     ⟨nat_lit 0xD4A, nat_lit 0xD4F⟩, ⟨nat_lit 0xD54, nat_lit 0xD63⟩,
     ⟨nat_lit 0xD66, nat_lit 0xD7F⟩, ⟨nat_lit 0x1CDA, nat_lit 0x1CDA⟩,
     ⟨nat_lit 0x1CF2, nat_lit 0x1CF2⟩, ⟨nat_lit 0xA830, nat_lit 0xA832⟩]),
  ("Mandaic",
    [⟨nat_lit 0x640, nat_lit 0x640⟩, ⟨nat_lit 0x840, nat_lit 0x85B⟩,
     ⟨nat_lit 0x85E, nat_lit 0x85E⟩]),
  ("Manichaean",
    [⟨nat_lit 0x640, nat_lit 0x640⟩, ⟨nat_lit 0x10AC0, nat_lit 0x10AE6⟩,
     ⟨nat_lit 0x10AEB, nat_lit 0x10AF6⟩]),
  ("Marchen",
    [⟨nat_lit 0x11C70, nat_lit 0x11C8F⟩, ⟨nat_lit 0x11C92, nat_lit 0x11CA7⟩,
     ⟨nat_lit 0x11CA9, nat_lit 0x11CB6⟩]),
  ("Masaram_Gondi",
    [⟨nat_lit 0x964, nat_lit 0x965⟩, ⟨nat_lit 0x11D00, nat_lit 0x11D06⟩,
     ⟨nat_lit 0x11D08, nat_lit 0x11D09⟩, ⟨nat_lit 0x11D0B, nat_lit 0x11D36⟩,
     ⟨nat_lit 0x11D3A, nat_lit 0x11D3A⟩, ⟨nat_lit 0x11D3C, nat_lit 0x11D3D⟩,
     ⟨nat_lit 0x11D3F, nat_lit 0x11D47⟩, ⟨nat_lit 0x11D50, nat_lit 0x11D59⟩]),
  ("Medefaidrin",
    [⟨nat_lit 0x16E40, nat_lit 0x16E9A⟩]),
  ("Meetei_Mayek",
    [⟨nat_lit 0xAAE0, nat_lit 0xAAF6⟩, ⟨nat_lit 0xABC0, nat_lit 0xABED⟩,
     ⟨nat_lit 0xABF0, nat_lit 0xABF9⟩]),
  ("Mende_Kikakui",
    [⟨nat_lit 0x1E800, nat_lit 0x1E8C4⟩, ⟨nat_lit 0x1E8C7, nat_lit 0x1E8D6⟩]),
  ("Meroitic_Cursive",
    [⟨nat_lit 0x109A0, nat_lit 0x109B7⟩, ⟨nat_lit 0x109BC, nat_lit 0x109CF⟩,
     ⟨nat_lit 0x109D2, nat_lit 0x109FF⟩]),
  ("Meroitic_Hieroglyphs",
    [⟨nat_lit 0x205D, nat_lit 0x205D⟩, ⟨nat_lit 0x10980, nat_lit 0x1099F⟩]),
  ("Miao",
    [⟨nat_lit 0x16F00, nat_lit 0x16F4A⟩, ⟨nat_lit 0x16F4F, nat_lit 0x16F87⟩,
     ⟨nat_lit 0x16F8F, nat_lit 0x16F9F⟩]),
  ("Modi",
    [⟨nat_lit 0xA830, nat_lit 0xA839⟩, ⟨nat_lit 0x11600, nat_lit 0x11644⟩,
     ⟨nat_lit 0x11650, nat_lit 0x11659⟩]),
  ("Mongolian",
    [⟨nat_lit 0x1800, nat_lit 0x1819⟩, ⟨nat_lit 0x1820, nat_lit 0x1878⟩,
     ⟨nat_lit 0x1880, nat_lit 0x18AA⟩, ⟨nat_lit 0x202F, nat_lit 0x202F⟩,
     ⟨nat_lit 0x3001, nat_lit 0x3002⟩, ⟨nat_lit 0x3008, nat_lit 0x300B⟩,
     ⟨nat_lit 0x11660, nat_lit 0x1166C⟩]),
  ("Mro",
    [⟨nat_lit 0x16A40, nat_lit 0x16A5E⟩, ⟨nat_lit 0x16A60, nat_lit 0x16A69⟩,
     ⟨nat_lit 0x16A6E, nat_lit 0x16A6F⟩]),
  ("Multani",
    [⟨nat_lit 0xA66, nat_lit 0xA6F⟩, ⟨nat_lit 0x11280, nat_lit 0x11286⟩,
     ⟨nat_lit 0x11288, nat_lit 0x11288⟩, ⟨nat_lit 0x1128A, nat_lit 0x1128D⟩,
     ⟨nat_lit 0x1128F, nat_lit 0x1129D⟩, ⟨nat_lit 0x1129F, nat_lit 0x112A9⟩]),
  ("Myanmar",
    [⟨nat_lit 0x1000, nat_lit 0x109F⟩, ⟨nat_lit 0xA92E, nat_lit 0xA92E⟩,
     ⟨nat_lit 0xA9E0, nat_lit 0xA9FE⟩, ⟨nat_lit 0xAA60, nat_lit 0xAA7F⟩,
     ⟨nat_lit 0x116D0, nat_lit 0x116E3⟩]),
  ("Nabataean",
    [⟨nat_lit 0x10880, nat_lit 0x1089E⟩, ⟨nat_lit 0x108A7, nat_lit 0x108AF⟩]),
  ("Nag_Mundari",
    [⟨nat_lit 0x1E4D0, nat_lit 0x1E4F9⟩]),
  ("Nandinagari",
    [⟨nat_lit 0x964, nat_lit 0x965⟩, ⟨nat_lit 0xCE6, nat_lit 0xCEF⟩,
     ⟨nat_lit 0x1CE9, nat_lit 0x1CE9⟩, ⟨nat_lit 0x1CF2, nat_lit 0x1CF2⟩,
     ⟨nat_lit 0x1CFA, nat_lit 0x1CFA⟩, ⟨nat_lit 0xA830, nat_lit 0xA835⟩,
     ⟨nat_lit 0x119A0, nat_lit 0x119A7⟩, ⟨nat_lit 0x119AA, nat_lit 0x119D7⟩,
     ⟨nat_lit 0x119DA, nat_lit 0x119E4⟩]),
  ("New_Tai_Lue",
    [⟨nat_lit 0x1980, nat_lit 0x19AB⟩, ⟨nat_lit 0x19B0, nat_lit 0x19C9⟩,
     ⟨nat_lit 0x19D0, nat_lit 0x19DA⟩, ⟨nat_lit 0x19DE, nat_lit 0x19DF⟩]),
  ("Newa",
    [⟨nat_lit 0x11400, nat_lit 0x1145B⟩, ⟨nat_lit 0x1145D, nat_lit 0x11461⟩]),
  ("Nko",
    [⟨nat_lit 0x60C, nat_lit 0x60C⟩, ⟨nat_lit 0x61B, nat_lit 0x61B⟩,
     ⟨nat_lit 0x61F, nat_lit 0x61F⟩, ⟨nat_lit 0x7C0, nat_lit 0x7FA⟩,
     ⟨nat_lit 0x7FD, nat_lit 0x7FF⟩, ⟨nat_lit 0xFD3E, nat_lit 0xFD3F⟩]),
  ("Nushu",
    [⟨nat_lit 0x16FE1, nat_lit 0x16FE1⟩, ⟨nat_lit 0x1B170, nat_lit 0x1B2FB⟩]),
  ("Nyiakeng_Puachue_Hmong",
    [⟨nat_lit 0x1E100, nat_lit 0x1E12C⟩, ⟨nat_lit 0x1E130, nat_lit 0x1E13D⟩,
     ⟨nat_lit 0x1E140, nat_lit 0x1E149⟩, ⟨nat_lit 0x1E14E, nat_lit 0x1E14F⟩]),
  ("Ogham",
    [⟨nat_lit 0x1680, nat_lit 0x169C⟩]),
  ("Ol_Chiki",
    [⟨nat_lit 0x1C50, nat_lit 0x1C7F⟩]),
  ("Ol_Onal",
    [⟨nat_lit 0x964, nat_lit 0x965⟩, ⟨nat_lit 0x1E5D0, nat_lit 0x1E5FA⟩,
     ⟨nat_lit 0x1E5FF, nat_lit 0x1E5FF⟩]),
  ("Old_Hungarian",
    [⟨nat_lit 0x205A, nat_lit 0x205A⟩, ⟨nat_lit 0x205D, nat_lit 0x205D⟩,
     ⟨nat_lit 0x2E31, nat_lit 0x2E31⟩, ⟨nat_lit 0x2E41, nat_lit 0x2E41⟩,
     ⟨nat_lit 0x10C80, nat_lit 0x10CB2⟩, ⟨nat_lit 0x10CC0, nat_lit 0x10CF2⟩,
     ⟨nat_lit 0x10CFA, nat_lit 0x10CFF⟩]),
  ("Old_Italic",
    [⟨nat_lit 0x10300, nat_lit 0x10323⟩, ⟨nat_lit 0x1032D, nat_lit 0x1032F⟩]),
  ("Old_North_Arabian",
    [⟨nat_lit 0x10A80, nat_lit 0x10A9F⟩]),
  ("Old_Permic",
    [⟨nat_lit 0xB7, nat_lit 0xB7⟩, ⟨nat_lit 0x300, nat_lit 0x300⟩, ⟨nat_lit 0x306, nat_lit 0x308⟩,
     ⟨nat_lit 0x313, nat_lit 0x313⟩, ⟨nat_lit 0x483, nat_lit 0x483⟩,
     ⟨nat_lit 0x10350, nat_lit 0x1037A⟩]),
  ("Old_Persian",
    [⟨nat_lit 0x103A0, nat_lit 0x103C3⟩, ⟨nat_lit 0x103C8, nat_lit 0x103D5⟩]),
  ("Old_Sogdian",
    [⟨nat_lit 0x10F00, nat_lit 0x10F27⟩]),
  ("Old_South_Arabian",
    [⟨nat_lit 0x10A60, nat_lit 0x10A7F⟩]),
  ("Old_Turkic",
    [⟨nat_lit 0x205A, nat_lit 0x205A⟩, ⟨nat_lit 0x2E30, nat_lit 0x2E30⟩,
     ⟨nat_lit 0x10C00, nat_lit 0x10C48⟩]),
  ("Old_Uyghur",
    [⟨nat_lit 0x640, nat_lit 0x640⟩, ⟨nat_lit 0x10AF2, nat_lit 0x10AF2⟩,
     ⟨nat_lit 0x10F70, nat_lit 0x10F89⟩]),
  ("Oriya",
    [⟨nat_lit 0x951, nat_lit 0x952⟩, ⟨nat_lit 0x964, nat_lit 0x965⟩,
     ⟨nat_lit 0xB01, nat_lit 0xB03⟩, ⟨nat_lit 0xB05, nat_lit 0xB0C⟩,
     ⟨nat_lit 0xB0F, nat_lit 0xB10⟩, ⟨nat_lit 0xB13, nat_lit 0xB28⟩,
     ⟨nat_lit 0xB2A, nat_lit 0xB30⟩, ⟨nat_lit 0xB32, nat_lit 0xB33⟩,
     ⟨nat_lit 0xB35, nat_lit 0xB39⟩, ⟨nat_lit 0xB3C, nat_lit 0xB44⟩,
     ⟨nat_lit 0xB47, nat_lit 0xB48⟩, ⟨nat_lit 0xB4B, nat_lit 0xB4D⟩,
     ⟨nat_lit 0xB55, nat_lit 0xB57⟩, ⟨nat_lit 0xB5C, nat_lit 0xB5D⟩,
     ⟨nat_lit 0xB5F, nat_lit 0xB63⟩, ⟨nat_lit 0xB66, nat_lit 0xB77⟩,
     ⟨nat_lit 0x1CDA, nat_lit 0x1CDA⟩, ⟨nat_lit 0x1CF2, nat_lit 0x1CF2⟩]),
  ("Osage",
    [⟨nat_lit 0x301, nat_lit 0x301⟩, ⟨nat_lit 0x304, nat_lit 0x304⟩,
     ⟨nat_lit 0x30B, nat_lit 0x30B⟩, ⟨nat_lit 0x358, nat_lit 0x358⟩,
     ⟨nat_lit 0x104B0, nat_lit 0x104D3⟩, ⟨nat_lit 0x104D8, nat_lit 0x104FB⟩]),
  ("Osmanya",
    [⟨nat_lit 0x10480, nat_lit 0x1049D⟩, ⟨nat_lit 0x104A0, nat_lit 0x104A9⟩]),
  ("Pahawh_Hmong",
    [⟨nat_lit 0x16B00, nat_lit 0x16B45⟩, ⟨nat_lit 0x16B50, nat_lit 0x16B59⟩,
     ⟨nat_lit 0x16B5B, nat_lit 0x16B61⟩, ⟨nat_lit 0x16B63, nat_lit 0x16B77⟩,
     ⟨nat_lit 0x16B7D, nat_lit 0x16B8F⟩]),
  ("Palmyrene",
    [⟨nat_lit 0x10860, nat_lit 0x1087F⟩]),
  ("Pau_Cin_Hau",
    [⟨nat_lit 0x11AC0, nat_lit 0x11AF8⟩]),
  ("Phags_Pa",
    [⟨nat_lit 0x1802, nat_lit 0x1803⟩, ⟨nat_lit 0x1805, nat_lit 0x1805⟩,
     ⟨nat_lit 0x202F, nat_lit 0x202F⟩, ⟨nat_lit 0x3002, nat_lit 0x3002⟩,
     ⟨nat_lit 0xA840, nat_lit 0xA877⟩]),
  ("Phoenician",
    [⟨nat_lit 0x10900, nat_lit 0x1091B⟩, ⟨nat_lit 0x1091F, nat_lit 0x1091F⟩]),
  ("Psalter_Pahlavi",
    [⟨nat_lit 0x640, nat_lit 0x640⟩, ⟨nat_lit 0x10B80, nat_lit 0x10B91⟩,
     ⟨nat_lit 0x10B99, nat_lit 0x10B9C⟩, ⟨nat_lit 0x10BA9, nat_lit 0x10BAF⟩]),
  ("Rejang",
    [⟨nat_lit 0xA930, nat_lit 0xA953⟩, ⟨nat_lit 0xA95F, nat_lit 0xA95F⟩]),
  ("Runic",
    [⟨nat_lit 0x16A0, nat_lit 0x16F8⟩]),
  ("Samaritan",
    [⟨nat_lit 0x800, nat_lit 0x82D⟩, ⟨nat_lit 0x830, nat_lit 0x83E⟩,
     ⟨nat_lit 0x2E31, nat_lit 0x2E31⟩]),
  ("Saurashtra",
    [⟨nat_lit 0xA880, nat_lit 0xA8C5⟩, ⟨nat_lit 0xA8CE, nat_lit 0xA8D9⟩]),
  ("Sharada",
    [⟨nat_lit 0x951, nat_lit 0x951⟩, ⟨nat_lit 0x1CD7, nat_lit 0x1CD7⟩,
     ⟨nat_lit 0x1CD9, nat_lit 0x1CD9⟩, ⟨nat_lit 0x1CDC, nat_lit 0x1CDD⟩,
     ⟨nat_lit 0x1CE0, nat_lit 0x1CE0⟩, ⟨nat_lit 0xA830, nat_lit 0xA835⟩,
     ⟨nat_lit 0xA838, nat_lit 0xA838⟩, ⟨nat_lit 0x11180, nat_lit 0x111DF⟩]),
  ("Shavian",
    [⟨nat_lit 0xB7, nat_lit 0xB7⟩, ⟨nat_lit 0x10450, nat_lit 0x1047F⟩]),
  ("Siddham",
    [⟨nat_lit 0x11580, nat_lit 0x115B5⟩, ⟨nat_lit 0x115B8, nat_lit 0x115DD⟩]),
  ("SignWriting",
    [⟨nat_lit 0x1D800, nat_lit 0x1DA8B⟩, ⟨nat_lit 0x1DA9B, nat_lit 0x1DA9F⟩,
     ⟨nat_lit 0x1DAA1, nat_lit 0x1DAAF⟩]),
  ("Sinhala",
    [⟨nat_lit 0x964, nat_lit 0x965⟩, ⟨nat_lit 0xD81, nat_lit 0xD83⟩,
     ⟨nat_lit 0xD85, nat_lit 0xD96⟩, ⟨nat_lit 0xD9A, nat_lit 0xDB1⟩,
     ⟨nat_lit 0xDB3, nat_lit 0xDBB⟩, ⟨nat_lit 0xDBD, nat_lit 0xDBD⟩,
     ⟨nat_lit 0xDC0, nat_lit 0xDC6⟩, ⟨nat_lit 0xDCA, nat_lit 0xDCA⟩,
     ⟨nat_lit 0xDCF, nat_lit 0xDD4⟩, ⟨nat_lit 0xDD6, nat_lit 0xDD6⟩,
     ⟨nat_lit 0xDD8, nat_lit 0xDDF⟩, ⟨nat_lit 0xDE6, nat_lit 0xDEF⟩,
     ⟨nat_lit 0xDF2, nat_lit 0xDF4⟩, ⟨nat_lit 0x1CF2, nat_lit 0x1CF2⟩,
     ⟨nat_lit 0x111E1, nat_lit 0x111F4⟩]),
  ("Sogdian",
    [⟨nat_lit 0x640, nat_lit 0x640⟩, ⟨nat_lit 0x10F30, nat_lit 0x10F59⟩]),
  ("Sora_Sompeng",
    [⟨nat_lit 0x110D0, nat_lit 0x110E8⟩, ⟨nat_lit 0x110F0, nat_lit 0x110F9⟩]),
  ("Soyombo",
    [⟨nat_lit 0x11A50, nat_lit 0x11AA2⟩]),
  ("Sundanese",
    [⟨nat_lit 0x1B80, nat_lit 0x1BBF⟩, ⟨nat_lit 0x1CC0, nat_lit 0x1CC7⟩]),
  ("Sunuwar",
    [⟨nat_lit 0x300, nat_lit 0x301⟩, ⟨nat_lit 0x303, nat_lit 0x303⟩,
     ⟨nat_lit 0x30D, nat_lit 0x30D⟩, ⟨nat_lit 0x310, nat_lit 0x310⟩,
     ⟨nat_lit 0x32D, nat_lit 0x32D⟩, ⟨nat_lit 0x331, nat_lit 0x331⟩,
     ⟨nat_lit 0x11BC0, nat_lit 0x11BE1⟩, ⟨nat_lit 0x11BF0, nat_lit 0x11BF9⟩]),
  ("Syloti_Nagri",
    [⟨nat_lit 0x964, nat_lit 0x965⟩, ⟨nat_lit 0x9E6, nat_lit 0x9EF⟩,
     ⟨nat_lit 0xA800, nat_lit 0xA82C⟩]),
  ("Syriac",
    [⟨nat_lit 0x303, nat_lit 0x304⟩, ⟨nat_lit 0x307, nat_lit 0x308⟩,
     ⟨nat_lit 0x30A, nat_lit 0x30A⟩, ⟨nat_lit 0x320, nat_lit 0x320⟩,
     ⟨nat_lit 0x323, nat_lit 0x325⟩, ⟨nat_lit 0x32D, nat_lit 0x32E⟩,
     ⟨nat_lit 0x330, nat_lit 0x330⟩, ⟨nat_lit 0x60C, nat_lit 0x60C⟩,
     ⟨nat_lit 0x61B, nat_lit 0x61C⟩, ⟨nat_lit 0x61F, nat_lit 0x61F⟩,
     ⟨nat_lit 0x640, nat_lit 0x640⟩, ⟨nat_lit 0x64B, nat_lit 0x655⟩,
     ⟨nat_lit 0x670, nat_lit 0x670⟩, ⟨nat_lit 0x700, nat_lit 0x70D⟩,
     ⟨nat_lit 0x70F, nat_lit 0x74A⟩, ⟨nat_lit 0x74D, nat_lit 0x74F⟩,
     ⟨nat_lit 0x860, nat_lit 0x86A⟩, ⟨nat_lit 0x1DF8, nat_lit 0x1DF8⟩,
     ⟨nat_lit 0x1DFA, nat_lit 0x1DFA⟩]),
  ("Tagalog",
    [⟨nat_lit 0x1700, nat_lit 0x1715⟩, ⟨nat_lit 0x171F, nat_lit 0x171F⟩,
     ⟨nat_lit 0x1735, nat_lit 0x1736⟩]),
  ("Tagbanwa",
    [⟨nat_lit 0x1735, nat_lit 0x1736⟩, ⟨nat_lit 0x1760, nat_lit 0x176C⟩,
     ⟨nat_lit 0x176E, nat_lit 0x1770⟩, ⟨nat_lit 0x1772, nat_lit 0x1773⟩]),
  ("Tai_Le",
    [⟨nat_lit 0x300, nat_lit 0x301⟩, ⟨nat_lit 0x307, nat_lit 0x308⟩,
     ⟨nat_lit 0x30C, nat_lit 0x30C⟩, ⟨nat_lit 0x1040, nat_lit 0x1049⟩,
     ⟨nat_lit 0x1950, nat_lit 0x196D⟩, ⟨nat_lit 0x1970, nat_lit 0x1974⟩]),
  ("Tai_Tham",
    [⟨nat_lit 0x1A20, nat_lit 0x1A5E⟩, ⟨nat_lit 0x1A60, nat_lit 0x1A7C⟩,
     ⟨nat_lit 0x1A7F, nat_lit 0x1A89⟩, ⟨nat_lit 0x1A90, nat_lit 0x1A99⟩,
     ⟨nat_lit 0x1AA0, nat_lit 0x1AAD⟩]),
  ("Tai_Viet",
    [⟨nat_lit 0xAA80, nat_lit 0xAAC2⟩, ⟨nat_lit 0xAADB, nat_lit 0xAADF⟩]),
  ("Takri",
    [⟨nat_lit 0x964, nat_lit 0x965⟩, ⟨nat_lit 0xA830, nat_lit 0xA839⟩,
     ⟨nat_lit 0x11680, nat_lit 0x116B9⟩, ⟨nat_lit 0x116C0, nat_lit 0x116C9⟩]),
  ("Tamil",
    [⟨nat_lit 0x951, nat_lit 0x952⟩, ⟨nat_lit 0x964, nat_lit 0x965⟩,
     ⟨nat_lit 0xB82, nat_lit 0xB83⟩, ⟨nat_lit 0xB85, nat_lit 0xB8A⟩,
     ⟨nat_lit 0xB8E, nat_lit 0xB90⟩, ⟨nat_lit 0xB92, nat_lit 0xB95⟩,
     ⟨nat_lit 0xB99, nat_lit 0xB9A⟩, ⟨nat_lit 0xB9C, nat_lit 0xB9C⟩,
     ⟨nat_lit 0xB9E, nat_lit 0xB9F⟩, ⟨nat_lit 0xBA3, nat_lit 0xBA4⟩,
     ⟨nat_lit 0xBA8, nat_lit 0xBAA⟩, ⟨nat_lit 0xBAE, nat_lit 0xBB9⟩,
     ⟨nat_lit 0xBBE, nat_lit 0xBC2⟩, ⟨nat_lit 0xBC6, nat_lit 0xBC8⟩,
     ⟨nat_lit 0xBCA, nat_lit 0xBCD⟩, ⟨nat_lit 0xBD0, nat_lit 0xBD0⟩,
     ⟨nat_lit 0xBD7, nat_lit 0xBD7⟩, ⟨nat_lit 0xBE6, nat_lit 0xBFA⟩,
     ⟨nat_lit 0x1CDA, nat_lit 0x1CDA⟩, ⟨nat_lit 0xA8F3, nat_lit 0xA8F3⟩,
     ⟨nat_lit 0x11301, nat_lit 0x11301⟩, ⟨nat_lit 0x11303, nat_lit 0x11303⟩,
     ⟨nat_lit 0x1133B, nat_lit 0x1133C⟩, ⟨nat_lit 0x11FC0, nat_lit 0x11FF1⟩,
     ⟨nat_lit 0x11FFF, nat_lit 0x11FFF⟩]),
  ("Tangsa",
    [⟨nat_lit 0x16A70, nat_lit 0x16ABE⟩, ⟨nat_lit 0x16AC0, nat_lit 0x16AC9⟩]),
  ("Tangut",
    [⟨nat_lit 0x2FF0, nat_lit 0x2FFF⟩, ⟨nat_lit 0x31EF, nat_lit 0x31EF⟩,
     ⟨nat_lit 0x16FE0, nat_lit 0x16FE0⟩, ⟨nat_lit 0x17000, nat_lit 0x187F7⟩,
     ⟨nat_lit 0x18800, nat_lit 0x18AFF⟩, ⟨nat_lit 0x18D00, nat_lit 0x18D08⟩]),
  ("Telugu",
    [⟨nat_lit 0x951, nat_lit 0x952⟩, ⟨nat_lit 0x964, nat_lit 0x965⟩,
     ⟨nat_lit 0xC00, nat_lit 0xC0C⟩, ⟨nat_lit 0xC0E, nat_lit 0xC10⟩,
     ⟨nat_lit 0xC12, nat_lit 0xC28⟩, ⟨nat_lit 0xC2A, nat_lit 0xC39⟩,
     ⟨nat_lit 0xC3C, nat_lit 0xC44⟩, ⟨nat_lit 0xC46, nat_lit 0xC48⟩,
     ⟨nat_lit 0xC4A, nat_lit 0xC4D⟩, ⟨nat_lit 0xC55, nat_lit 0xC56⟩,
     ⟨nat_lit 0xC58, nat_lit 0xC5A⟩, ⟨nat_lit 0xC5D, nat_lit 0xC5D⟩,
     ⟨nat_lit 0xC60, nat_lit 0xC63⟩, ⟨nat_lit 0xC66, nat_lit 0xC6F⟩,
     ⟨nat_lit 0xC77, nat_lit 0xC7F⟩, ⟨nat_lit 0x1CDA, nat_lit 0x1CDA⟩,
     ⟨nat_lit 0x1CF2, nat_lit 0x1CF2⟩]),
  ("Thaana",
    [⟨nat_lit 0x60C, nat_lit 0x60C⟩, ⟨nat_lit 0x61B, nat_lit 0x61C⟩,
     ⟨nat_lit 0x61F, nat_lit 0x61F⟩, ⟨nat_lit 0x660, nat_lit 0x669⟩,
     ⟨nat_lit 0x780, nat_lit 0x7B1⟩, ⟨nat_lit 0xFDF2, nat_lit 0xFDF2⟩,
     ⟨nat_lit 0xFDFD, nat_lit 0xFDFD⟩]),
  ("Thai",
    [⟨nat_lit 0x2BC, nat_lit 0x2BC⟩, ⟨nat_lit 0x2D7, nat_lit 0x2D7⟩,
     ⟨nat_lit 0x303, nat_lit 0x303⟩, ⟨nat_lit 0x331, nat_lit 0x331⟩,
     ⟨nat_lit 0xE01, nat_lit 0xE3A⟩, ⟨nat_lit 0xE40, nat_lit 0xE5B⟩]),
  ("Tibetan",
    [⟨nat_lit 0xF00, nat_lit 0xF47⟩, ⟨nat_lit 0xF49, nat_lit 0xF6C⟩,
     ⟨nat_lit 0xF71, nat_lit 0xF97⟩, ⟨nat_lit 0xF99, nat_lit 0xFBC⟩,
     ⟨nat_lit 0xFBE, nat_lit 0xFCC⟩, ⟨nat_lit 0xFCE, nat_lit 0xFD4⟩,
     ⟨nat_lit 0xFD9, nat_lit 0xFDA⟩, ⟨nat_lit 0x3008, nat_lit 0x300B⟩]),
  ("Tifinagh",
    [⟨nat_lit 0x302, nat_lit 0x302⟩, ⟨nat_lit 0x304, nat_lit 0x304⟩,
     ⟨nat_lit 0x307, nat_lit 0x307⟩, ⟨nat_lit 0x309, nat_lit 0x309⟩,
     ⟨nat_lit 0x2D30, nat_lit 0x2D67⟩, ⟨nat_lit 0x2D6F, nat_lit 0x2D70⟩,
     ⟨nat_lit 0x2D7F, nat_lit 0x2D7F⟩]),
  ("Tirhuta",
    [⟨nat_lit 0x951, nat_lit 0x952⟩, ⟨nat_lit 0x964, nat_lit 0x965⟩,
     ⟨nat_lit 0x1CF2, nat_lit 0x1CF2⟩, ⟨nat_lit 0xA830, nat_lit 0xA839⟩,
     ⟨nat_lit 0x11480, nat_lit 0x114C7⟩, ⟨nat_lit 0x114D0, nat_lit 0x114D9⟩]),
  ("Todhri",
    [⟨nat_lit 0x301, nat_lit 0x301⟩, ⟨nat_lit 0x304, nat_lit 0x304⟩,
     ⟨nat_lit 0x307, nat_lit 0x307⟩, ⟨nat_lit 0x311, nat_lit 0x311⟩,
     ⟨nat_lit 0x313, nat_lit 0x313⟩, ⟨nat_lit 0x35E, nat_lit 0x35E⟩,
     ⟨nat_lit 0x105C0, nat_lit 0x105F3⟩]),
  ("Toto",
    [⟨nat_lit 0x2BC, nat_lit 0x2BC⟩, ⟨nat_lit 0x1E290, nat_lit 0x1E2AE⟩]),
  ("Tulu_Tigalari",
    [⟨nat_lit 0xCE6, nat_lit 0xCEF⟩, ⟨nat_lit 0x1CF2, nat_lit 0x1CF2⟩,
     ⟨nat_lit 0x1CF4, nat_lit 0x1CF4⟩, ⟨nat_lit 0xA830, nat_lit 0xA835⟩,
     ⟨nat_lit 0xA8F1, nat_lit 0xA8F1⟩, ⟨nat_lit 0x11380, nat_lit 0x11389⟩,
     ⟨nat_lit 0x1138B, nat_lit 0x1138B⟩, ⟨nat_lit 0x1138E, nat_lit 0x1138E⟩,
     ⟨nat_lit 0x11390, nat_lit 0x113B5⟩, ⟨nat_lit 0x113B7, nat_lit 0x113C0⟩,
     ⟨nat_lit 0x113C2, nat_lit 0x113C2⟩, ⟨nat_lit 0x113C5, nat_lit 0x113C5⟩,
     ⟨nat_lit 0x113C7, nat_lit 0x113CA⟩, ⟨nat_lit 0x113CC, nat_lit 0x113D5⟩,
     ⟨nat_lit 0x113D7, nat_lit 0x113D8⟩, ⟨nat_lit 0x113E1, nat_lit 0x113E2⟩]),
  ("Ugaritic",
    [⟨nat_lit 0x10380, nat_lit 0x1039D⟩, ⟨nat_lit 0x1039F, nat_lit 0x1039F⟩]),
  ("Vai",
    [⟨nat_lit 0xA500, nat_lit 0xA62B⟩]),
  ("Vithkuqi",
    [⟨nat_lit 0x10570, nat_lit 0x1057A⟩, ⟨nat_lit 0x1057C, nat_lit 0x1058A⟩,
     ⟨nat_lit 0x1058C, nat_lit 0x10592⟩, ⟨nat_lit 0x10594, nat_lit 0x10595⟩,
     ⟨nat_lit 0x10597, nat_lit 0x105A1⟩, ⟨nat_lit 0x105A3, nat_lit 0x105B1⟩,
     ⟨nat_lit 0x105B3, nat_lit 0x105B9⟩, ⟨nat_lit 0x105BB, nat_lit 0x105BC⟩]),
  ("Wancho",
    [⟨nat_lit 0x1E2C0, nat_lit 0x1E2F9⟩, ⟨nat_lit 0x1E2FF, nat_lit 0x1E2FF⟩]),
  ("Warang_Citi",
    [⟨nat_lit 0x118A0, nat_lit 0x118F2⟩, ⟨nat_lit 0x118FF, nat_lit 0x118FF⟩]),
  ("Yezidi",
    [⟨nat_lit 0x60C, nat_lit 0x60C⟩, ⟨nat_lit 0x61B, nat_lit 0x61B⟩,
     ⟨nat_lit 0x61F, nat_lit 0x61F⟩, ⟨nat_lit 0x660, nat_lit 0x669⟩,
     ⟨nat_lit 0x10E80, nat_lit 0x10EA9⟩, ⟨nat_lit 0x10EAB, nat_lit 0x10EAD⟩,
     ⟨nat_lit 0x10EB0, nat_lit 0x10EB1⟩]),
  ("Yi",
    [⟨nat_lit 0x3001, nat_lit 0x3002⟩, ⟨nat_lit 0x3008, nat_lit 0x3011⟩,
     ⟨nat_lit 0x3014, nat_lit 0x301B⟩, ⟨nat_lit 0x30FB, nat_lit 0x30FB⟩,
     ⟨nat_lit 0xA000, nat_lit 0xA48C⟩, ⟨nat_lit 0xA490, nat_lit 0xA4C6⟩,
     ⟨nat_lit 0xFF61, nat_lit 0xFF65⟩]),
  ("Zanabazar_Square",
    [⟨nat_lit 0x11A00, nat_lit 0x11A47⟩])]

/-- The code points used with the script named by its long name, if the database has a
table for that script. -/
def scriptExtension? (name : String) : Option CodePointSet :=
  (List.lookup name scriptExtensionTable).map CodePointSet.mk

end Unicode

end EcmaRegex
