import EcmaRegex.CodePointSet.Basic
/-!
# Binary properties of notation

Mathematical characters and hexadecimal digits.
Unicode character database, version 16.0; each table lists the code points that have the
property, as ranges, by the property's long name.
-/

namespace EcmaRegex

namespace Unicode

set_option maxRecDepth 20000 in
/-- Binary properties of notation, as ranges, by long name. -/
def notationTables : List (String × List CodePointRange) := [
  ("Math",
    [⟨nat_lit 0x2B, nat_lit 0x2B⟩, ⟨nat_lit 0x3C, nat_lit 0x3E⟩, ⟨nat_lit 0x5E, nat_lit 0x5E⟩,
     ⟨nat_lit 0x7C, nat_lit 0x7C⟩, ⟨nat_lit 0x7E, nat_lit 0x7E⟩, ⟨nat_lit 0xAC, nat_lit 0xAC⟩,
     ⟨nat_lit 0xB1, nat_lit 0xB1⟩, ⟨nat_lit 0xD7, nat_lit 0xD7⟩, ⟨nat_lit 0xF7, nat_lit 0xF7⟩,
     ⟨nat_lit 0x3D0, nat_lit 0x3D2⟩, ⟨nat_lit 0x3D5, nat_lit 0x3D5⟩,
     ⟨nat_lit 0x3F0, nat_lit 0x3F1⟩, ⟨nat_lit 0x3F4, nat_lit 0x3F6⟩,
     ⟨nat_lit 0x606, nat_lit 0x608⟩, ⟨nat_lit 0x2016, nat_lit 0x2016⟩,
     ⟨nat_lit 0x2032, nat_lit 0x2034⟩, ⟨nat_lit 0x2040, nat_lit 0x2040⟩,
     ⟨nat_lit 0x2044, nat_lit 0x2044⟩, ⟨nat_lit 0x2052, nat_lit 0x2052⟩,
     ⟨nat_lit 0x2061, nat_lit 0x2064⟩, ⟨nat_lit 0x207A, nat_lit 0x207E⟩,
     ⟨nat_lit 0x208A, nat_lit 0x208E⟩, ⟨nat_lit 0x20D0, nat_lit 0x20DC⟩,
     ⟨nat_lit 0x20E1, nat_lit 0x20E1⟩, ⟨nat_lit 0x20E5, nat_lit 0x20E6⟩,
     ⟨nat_lit 0x20EB, nat_lit 0x20EF⟩, ⟨nat_lit 0x2102, nat_lit 0x2102⟩,
     ⟨nat_lit 0x2107, nat_lit 0x2107⟩, ⟨nat_lit 0x210A, nat_lit 0x2113⟩,
     ⟨nat_lit 0x2115, nat_lit 0x2115⟩, ⟨nat_lit 0x2118, nat_lit 0x211D⟩,
     ⟨nat_lit 0x2124, nat_lit 0x2124⟩, ⟨nat_lit 0x2128, nat_lit 0x2129⟩,
     ⟨nat_lit 0x212C, nat_lit 0x212D⟩, ⟨nat_lit 0x212F, nat_lit 0x2131⟩,
     ⟨nat_lit 0x2133, nat_lit 0x2138⟩, ⟨nat_lit 0x213C, nat_lit 0x2149⟩,
     ⟨nat_lit 0x214B, nat_lit 0x214B⟩, ⟨nat_lit 0x2190, nat_lit 0x21A7⟩,
     ⟨nat_lit 0x21A9, nat_lit 0x21AE⟩, ⟨nat_lit 0x21B0, nat_lit 0x21B1⟩,
     ⟨nat_lit 0x21B6, nat_lit 0x21B7⟩, ⟨nat_lit 0x21BC, nat_lit 0x21DB⟩,
     ⟨nat_lit 0x21DD, nat_lit 0x21DD⟩, ⟨nat_lit 0x21E4, nat_lit 0x21E5⟩,
     ⟨nat_lit 0x21F4, nat_lit 0x22FF⟩, ⟨nat_lit 0x2308, nat_lit 0x230B⟩,
     ⟨nat_lit 0x2320, nat_lit 0x2321⟩, ⟨nat_lit 0x237C, nat_lit 0x237C⟩,
     ⟨nat_lit 0x239B, nat_lit 0x23B5⟩, ⟨nat_lit 0x23B7, nat_lit 0x23B7⟩,
     ⟨nat_lit 0x23D0, nat_lit 0x23D0⟩, ⟨nat_lit 0x23DC, nat_lit 0x23E2⟩,
     ⟨nat_lit 0x25A0, nat_lit 0x25A1⟩, ⟨nat_lit 0x25AE, nat_lit 0x25B7⟩,
     ⟨nat_lit 0x25BC, nat_lit 0x25C1⟩, ⟨nat_lit 0x25C6, nat_lit 0x25C7⟩,
     ⟨nat_lit 0x25CA, nat_lit 0x25CB⟩, ⟨nat_lit 0x25CF, nat_lit 0x25D3⟩,
     ⟨nat_lit 0x25E2, nat_lit 0x25E2⟩, ⟨nat_lit 0x25E4, nat_lit 0x25E4⟩,
     ⟨nat_lit 0x25E7, nat_lit 0x25EC⟩, ⟨nat_lit 0x25F8, nat_lit 0x25FF⟩,
     ⟨nat_lit 0x2605, nat_lit 0x2606⟩, ⟨nat_lit 0x2640, nat_lit 0x2640⟩,
     ⟨nat_lit 0x2642, nat_lit 0x2642⟩, ⟨nat_lit 0x2660, nat_lit 0x2663⟩,
     ⟨nat_lit 0x266D, nat_lit 0x266F⟩, ⟨nat_lit 0x27C0, nat_lit 0x27FF⟩,
     ⟨nat_lit 0x2900, nat_lit 0x2AFF⟩, ⟨nat_lit 0x2B30, nat_lit 0x2B44⟩,
     ⟨nat_lit 0x2B47, nat_lit 0x2B4C⟩, ⟨nat_lit 0xFB29, nat_lit 0xFB29⟩,
     ⟨nat_lit 0xFE61, nat_lit 0xFE66⟩, ⟨nat_lit 0xFE68, nat_lit 0xFE68⟩,
     ⟨nat_lit 0xFF0B, nat_lit 0xFF0B⟩, ⟨nat_lit 0xFF1C, nat_lit 0xFF1E⟩,
     ⟨nat_lit 0xFF3C, nat_lit 0xFF3C⟩, ⟨nat_lit 0xFF3E, nat_lit 0xFF3E⟩,
     ⟨nat_lit 0xFF5C, nat_lit 0xFF5C⟩, ⟨nat_lit 0xFF5E, nat_lit 0xFF5E⟩,
     ⟨nat_lit 0xFFE2, nat_lit 0xFFE2⟩, ⟨nat_lit 0xFFE9, nat_lit 0xFFEC⟩,
     ⟨nat_lit 0x10D8E, nat_lit 0x10D8F⟩, ⟨nat_lit 0x1D400, nat_lit 0x1D454⟩,
     ⟨nat_lit 0x1D456, nat_lit 0x1D49C⟩, ⟨nat_lit 0x1D49E, nat_lit 0x1D49F⟩,
     ⟨nat_lit 0x1D4A2, nat_lit 0x1D4A2⟩, ⟨nat_lit 0x1D4A5, nat_lit 0x1D4A6⟩,
     ⟨nat_lit 0x1D4A9, nat_lit 0x1D4AC⟩, ⟨nat_lit 0x1D4AE, nat_lit 0x1D4B9⟩,
     ⟨nat_lit 0x1D4BB, nat_lit 0x1D4BB⟩, ⟨nat_lit 0x1D4BD, nat_lit 0x1D4C3⟩,
     ⟨nat_lit 0x1D4C5, nat_lit 0x1D505⟩, ⟨nat_lit 0x1D507, nat_lit 0x1D50A⟩,
     ⟨nat_lit 0x1D50D, nat_lit 0x1D514⟩, ⟨nat_lit 0x1D516, nat_lit 0x1D51C⟩,
     ⟨nat_lit 0x1D51E, nat_lit 0x1D539⟩, ⟨nat_lit 0x1D53B, nat_lit 0x1D53E⟩,
     ⟨nat_lit 0x1D540, nat_lit 0x1D544⟩, ⟨nat_lit 0x1D546, nat_lit 0x1D546⟩,
     ⟨nat_lit 0x1D54A, nat_lit 0x1D550⟩, ⟨nat_lit 0x1D552, nat_lit 0x1D6A5⟩,
     ⟨nat_lit 0x1D6A8, nat_lit 0x1D7CB⟩, ⟨nat_lit 0x1D7CE, nat_lit 0x1D7FF⟩,
     ⟨nat_lit 0x1EE00, nat_lit 0x1EE03⟩, ⟨nat_lit 0x1EE05, nat_lit 0x1EE1F⟩,
     ⟨nat_lit 0x1EE21, nat_lit 0x1EE22⟩, ⟨nat_lit 0x1EE24, nat_lit 0x1EE24⟩,
     ⟨nat_lit 0x1EE27, nat_lit 0x1EE27⟩, ⟨nat_lit 0x1EE29, nat_lit 0x1EE32⟩,
     ⟨nat_lit 0x1EE34, nat_lit 0x1EE37⟩, ⟨nat_lit 0x1EE39, nat_lit 0x1EE39⟩,
     ⟨nat_lit 0x1EE3B, nat_lit 0x1EE3B⟩, ⟨nat_lit 0x1EE42, nat_lit 0x1EE42⟩,
     ⟨nat_lit 0x1EE47, nat_lit 0x1EE47⟩, ⟨nat_lit 0x1EE49, nat_lit 0x1EE49⟩,
     ⟨nat_lit 0x1EE4B, nat_lit 0x1EE4B⟩, ⟨nat_lit 0x1EE4D, nat_lit 0x1EE4F⟩,
     ⟨nat_lit 0x1EE51, nat_lit 0x1EE52⟩, ⟨nat_lit 0x1EE54, nat_lit 0x1EE54⟩,
     ⟨nat_lit 0x1EE57, nat_lit 0x1EE57⟩, ⟨nat_lit 0x1EE59, nat_lit 0x1EE59⟩,
     ⟨nat_lit 0x1EE5B, nat_lit 0x1EE5B⟩, ⟨nat_lit 0x1EE5D, nat_lit 0x1EE5D⟩,
     ⟨nat_lit 0x1EE5F, nat_lit 0x1EE5F⟩, ⟨nat_lit 0x1EE61, nat_lit 0x1EE62⟩,
     ⟨nat_lit 0x1EE64, nat_lit 0x1EE64⟩, ⟨nat_lit 0x1EE67, nat_lit 0x1EE6A⟩,
     ⟨nat_lit 0x1EE6C, nat_lit 0x1EE72⟩, ⟨nat_lit 0x1EE74, nat_lit 0x1EE77⟩,
     ⟨nat_lit 0x1EE79, nat_lit 0x1EE7C⟩, ⟨nat_lit 0x1EE7E, nat_lit 0x1EE7E⟩,
     ⟨nat_lit 0x1EE80, nat_lit 0x1EE89⟩, ⟨nat_lit 0x1EE8B, nat_lit 0x1EE9B⟩,
     ⟨nat_lit 0x1EEA1, nat_lit 0x1EEA3⟩, ⟨nat_lit 0x1EEA5, nat_lit 0x1EEA9⟩,
     ⟨nat_lit 0x1EEAB, nat_lit 0x1EEBB⟩, ⟨nat_lit 0x1EEF0, nat_lit 0x1EEF1⟩]),
  ("Hex_Digit",
    [⟨nat_lit 0x30, nat_lit 0x39⟩, ⟨nat_lit 0x41, nat_lit 0x46⟩, ⟨nat_lit 0x61, nat_lit 0x66⟩,
     ⟨nat_lit 0xFF10, nat_lit 0xFF19⟩, ⟨nat_lit 0xFF21, nat_lit 0xFF26⟩,
     ⟨nat_lit 0xFF41, nat_lit 0xFF46⟩]),
  ("ASCII_Hex_Digit",
    [⟨nat_lit 0x30, nat_lit 0x39⟩, ⟨nat_lit 0x41, nat_lit 0x46⟩, ⟨nat_lit 0x61, nat_lit 0x66⟩])]

end Unicode

end EcmaRegex
