import EcmaRegex.CodePointSet.Basic
/-!
# Binary properties of spacing and format characters

White space, the bidirectional controls and mirrored characters, joiners, default-ignorable
code points, variation selectors, noncharacters and deprecated characters.
Unicode character database, version 16.0; each table lists the code points that have the
property, as ranges, by the property's long name.
-/

namespace EcmaRegex

namespace Unicode

set_option maxRecDepth 20000 in
/-- Binary properties of spacing and format characters, as ranges, by long name. -/
def formatTables : List (String × List CodePointRange) := [
  ("White_Space",
    [⟨nat_lit 0x9, nat_lit 0xD⟩, ⟨nat_lit 0x20, nat_lit 0x20⟩, ⟨nat_lit 0x85, nat_lit 0x85⟩,
     ⟨nat_lit 0xA0, nat_lit 0xA0⟩, ⟨nat_lit 0x1680, nat_lit 0x1680⟩,
     ⟨nat_lit 0x2000, nat_lit 0x200A⟩, ⟨nat_lit 0x2028, nat_lit 0x2029⟩,
     ⟨nat_lit 0x202F, nat_lit 0x202F⟩, ⟨nat_lit 0x205F, nat_lit 0x205F⟩,
     ⟨nat_lit 0x3000, nat_lit 0x3000⟩]),
  ("Bidi_Control",
    [⟨nat_lit 0x61C, nat_lit 0x61C⟩, ⟨nat_lit 0x200E, nat_lit 0x200F⟩,
     ⟨nat_lit 0x202A, nat_lit 0x202E⟩, ⟨nat_lit 0x2066, nat_lit 0x2069⟩]),
  ("Bidi_Mirrored",
    [⟨nat_lit 0x28, nat_lit 0x29⟩, ⟨nat_lit 0x3C, nat_lit 0x3C⟩, ⟨nat_lit 0x3E, nat_lit 0x3E⟩,
     ⟨nat_lit 0x5B, nat_lit 0x5B⟩, ⟨nat_lit 0x5D, nat_lit 0x5D⟩, ⟨nat_lit 0x7B, nat_lit 0x7B⟩,
     ⟨nat_lit 0x7D, nat_lit 0x7D⟩, ⟨nat_lit 0xAB, nat_lit 0xAB⟩, ⟨nat_lit 0xBB, nat_lit 0xBB⟩,
     ⟨nat_lit 0xF3A, nat_lit 0xF3D⟩, ⟨nat_lit 0x169B, nat_lit 0x169C⟩,
     ⟨nat_lit 0x2039, nat_lit 0x203A⟩, ⟨nat_lit 0x2045, nat_lit 0x2046⟩,
     ⟨nat_lit 0x207D, nat_lit 0x207E⟩, ⟨nat_lit 0x208D, nat_lit 0x208E⟩,
     ⟨nat_lit 0x2140, nat_lit 0x2140⟩, ⟨nat_lit 0x2201, nat_lit 0x2204⟩,
     ⟨nat_lit 0x2208, nat_lit 0x220D⟩, ⟨nat_lit 0x2211, nat_lit 0x2211⟩,
     ⟨nat_lit 0x2215, nat_lit 0x2216⟩, ⟨nat_lit 0x221A, nat_lit 0x221D⟩,
     ⟨nat_lit 0x221F, nat_lit 0x2222⟩, ⟨nat_lit 0x2224, nat_lit 0x2224⟩,
     ⟨nat_lit 0x2226, nat_lit 0x2226⟩, ⟨nat_lit 0x222B, nat_lit 0x2233⟩,
     ⟨nat_lit 0x2239, nat_lit 0x2239⟩, ⟨nat_lit 0x223B, nat_lit 0x224C⟩,
     ⟨nat_lit 0x2252, nat_lit 0x2255⟩, ⟨nat_lit 0x225F, nat_lit 0x2260⟩,
     ⟨nat_lit 0x2262, nat_lit 0x2262⟩, ⟨nat_lit 0x2264, nat_lit 0x226B⟩,
     ⟨nat_lit 0x226D, nat_lit 0x228C⟩, ⟨nat_lit 0x228F, nat_lit 0x2292⟩,
     ⟨nat_lit 0x2298, nat_lit 0x2298⟩, ⟨nat_lit 0x22A2, nat_lit 0x22A3⟩,
     ⟨nat_lit 0x22A6, nat_lit 0x22B8⟩, ⟨nat_lit 0x22BE, nat_lit 0x22BF⟩,
     ⟨nat_lit 0x22C9, nat_lit 0x22CD⟩, ⟨nat_lit 0x22D0, nat_lit 0x22D1⟩,
     ⟨nat_lit 0x22D6, nat_lit 0x22ED⟩, ⟨nat_lit 0x22F0, nat_lit 0x22FF⟩,
     ⟨nat_lit 0x2308, nat_lit 0x230B⟩, ⟨nat_lit 0x2320, nat_lit 0x2321⟩,
     ⟨nat_lit 0x2329, nat_lit 0x232A⟩, ⟨nat_lit 0x2768, nat_lit 0x2775⟩,
     ⟨nat_lit 0x27C0, nat_lit 0x27C0⟩, ⟨nat_lit 0x27C3, nat_lit 0x27C6⟩,
     ⟨nat_lit 0x27C8, nat_lit 0x27C9⟩, ⟨nat_lit 0x27CB, nat_lit 0x27CD⟩,
     ⟨nat_lit 0x27D3, nat_lit 0x27D6⟩, ⟨nat_lit 0x27DC, nat_lit 0x27DE⟩,
     ⟨nat_lit 0x27E2, nat_lit 0x27EF⟩, ⟨nat_lit 0x2983, nat_lit 0x2998⟩,
     ⟨nat_lit 0x299B, nat_lit 0x29A0⟩, ⟨nat_lit 0x29A2, nat_lit 0x29AF⟩,
     ⟨nat_lit 0x29B8, nat_lit 0x29B8⟩, ⟨nat_lit 0x29C0, nat_lit 0x29C5⟩,
     ⟨nat_lit 0x29C9, nat_lit 0x29C9⟩, ⟨nat_lit 0x29CE, nat_lit 0x29D2⟩,
     ⟨nat_lit 0x29D4, nat_lit 0x29D5⟩, ⟨nat_lit 0x29D8, nat_lit 0x29DC⟩,
     ⟨nat_lit 0x29E1, nat_lit 0x29E1⟩, ⟨nat_lit 0x29E3, nat_lit 0x29E5⟩,
     ⟨nat_lit 0x29E8, nat_lit 0x29E9⟩, ⟨nat_lit 0x29F4, nat_lit 0x29F9⟩,
     ⟨nat_lit 0x29FC, nat_lit 0x29FD⟩, ⟨nat_lit 0x2A0A, nat_lit 0x2A1C⟩,
     ⟨nat_lit 0x2A1E, nat_lit 0x2A21⟩, ⟨nat_lit 0x2A24, nat_lit 0x2A24⟩,
     ⟨nat_lit 0x2A26, nat_lit 0x2A26⟩, ⟨nat_lit 0x2A29, nat_lit 0x2A29⟩,
     ⟨nat_lit 0x2A2B, nat_lit 0x2A2E⟩, ⟨nat_lit 0x2A34, nat_lit 0x2A35⟩,
     ⟨nat_lit 0x2A3C, nat_lit 0x2A3E⟩, ⟨nat_lit 0x2A57, nat_lit 0x2A58⟩,
     ⟨nat_lit 0x2A64, nat_lit 0x2A65⟩, ⟨nat_lit 0x2A6A, nat_lit 0x2A6D⟩,
     ⟨nat_lit 0x2A6F, nat_lit 0x2A70⟩, ⟨nat_lit 0x2A73, nat_lit 0x2A74⟩,
     ⟨nat_lit 0x2A79, nat_lit 0x2AA3⟩, ⟨nat_lit 0x2AA6, nat_lit 0x2AAD⟩,
     ⟨nat_lit 0x2AAF, nat_lit 0x2AD6⟩, ⟨nat_lit 0x2ADC, nat_lit 0x2ADC⟩,
     ⟨nat_lit 0x2ADE, nat_lit 0x2ADE⟩, ⟨nat_lit 0x2AE2, nat_lit 0x2AE6⟩,
     ⟨nat_lit 0x2AEC, nat_lit 0x2AEE⟩, ⟨nat_lit 0x2AF3, nat_lit 0x2AF3⟩,
     ⟨nat_lit 0x2AF7, nat_lit 0x2AFB⟩, ⟨nat_lit 0x2AFD, nat_lit 0x2AFD⟩,
     ⟨nat_lit 0x2BFE, nat_lit 0x2BFE⟩, ⟨nat_lit 0x2E02, nat_lit 0x2E05⟩,
     ⟨nat_lit 0x2E09, nat_lit 0x2E0A⟩, ⟨nat_lit 0x2E0C, nat_lit 0x2E0D⟩,
     ⟨nat_lit 0x2E1C, nat_lit 0x2E1D⟩, ⟨nat_lit 0x2E20, nat_lit 0x2E29⟩,
     ⟨nat_lit 0x2E55, nat_lit 0x2E5C⟩, ⟨nat_lit 0x3008, nat_lit 0x3011⟩,
     ⟨nat_lit 0x3014, nat_lit 0x301B⟩, ⟨nat_lit 0xFE59, nat_lit 0xFE5E⟩,
     ⟨nat_lit 0xFE64, nat_lit 0xFE65⟩, ⟨nat_lit 0xFF08, nat_lit 0xFF09⟩,
     ⟨nat_lit 0xFF1C, nat_lit 0xFF1C⟩, ⟨nat_lit 0xFF1E, nat_lit 0xFF1E⟩,
     ⟨nat_lit 0xFF3B, nat_lit 0xFF3B⟩, ⟨nat_lit 0xFF3D, nat_lit 0xFF3D⟩,
     ⟨nat_lit 0xFF5B, nat_lit 0xFF5B⟩, ⟨nat_lit 0xFF5D, nat_lit 0xFF5D⟩,
     ⟨nat_lit 0xFF5F, nat_lit 0xFF60⟩, ⟨nat_lit 0xFF62, nat_lit 0xFF63⟩,
     ⟨nat_lit 0x1D6DB, nat_lit 0x1D6DB⟩, ⟨nat_lit 0x1D715, nat_lit 0x1D715⟩,
     ⟨nat_lit 0x1D74F, nat_lit 0x1D74F⟩, ⟨nat_lit 0x1D789, nat_lit 0x1D789⟩,
     ⟨nat_lit 0x1D7C3, nat_lit 0x1D7C3⟩]),
  ("Join_Control",
    [⟨nat_lit 0x200C, nat_lit 0x200D⟩]),
  ("Default_Ignorable_Code_Point",
    [⟨nat_lit 0xAD, nat_lit 0xAD⟩, ⟨nat_lit 0x34F, nat_lit 0x34F⟩, ⟨nat_lit 0x61C, nat_lit 0x61C⟩,
     ⟨nat_lit 0x115F, nat_lit 0x1160⟩, ⟨nat_lit 0x17B4, nat_lit 0x17B5⟩,
     ⟨nat_lit 0x180B, nat_lit 0x180F⟩, ⟨nat_lit 0x200B, nat_lit 0x200F⟩,
     ⟨nat_lit 0x202A, nat_lit 0x202E⟩, ⟨nat_lit 0x2060, nat_lit 0x206F⟩,
     ⟨nat_lit 0x3164, nat_lit 0x3164⟩, ⟨nat_lit 0xFE00, nat_lit 0xFE0F⟩,
     ⟨nat_lit 0xFEFF, nat_lit 0xFEFF⟩, ⟨nat_lit 0xFFA0, nat_lit 0xFFA0⟩,
     ⟨nat_lit 0xFFF0, nat_lit 0xFFF8⟩, ⟨nat_lit 0x1BCA0, nat_lit 0x1BCA3⟩,
     ⟨nat_lit 0x1D173, nat_lit 0x1D17A⟩, ⟨nat_lit 0xE0000, nat_lit 0xE0FFF⟩]),
  ("Variation_Selector",
    [⟨nat_lit 0x180B, nat_lit 0x180D⟩, ⟨nat_lit 0x180F, nat_lit 0x180F⟩,
     ⟨nat_lit 0xFE00, nat_lit 0xFE0F⟩, ⟨nat_lit 0xE0100, nat_lit 0xE01EF⟩]),
  ("Noncharacter_Code_Point",
    [⟨nat_lit 0xFDD0, nat_lit 0xFDEF⟩, ⟨nat_lit 0xFFFE, nat_lit 0xFFFF⟩,
     ⟨nat_lit 0x1FFFE, nat_lit 0x1FFFF⟩, ⟨nat_lit 0x2FFFE, nat_lit 0x2FFFF⟩,
     ⟨nat_lit 0x3FFFE, nat_lit 0x3FFFF⟩, ⟨nat_lit 0x4FFFE, nat_lit 0x4FFFF⟩,
     ⟨nat_lit 0x5FFFE, nat_lit 0x5FFFF⟩, ⟨nat_lit 0x6FFFE, nat_lit 0x6FFFF⟩,
     ⟨nat_lit 0x7FFFE, nat_lit 0x7FFFF⟩, ⟨nat_lit 0x8FFFE, nat_lit 0x8FFFF⟩,
     ⟨nat_lit 0x9FFFE, nat_lit 0x9FFFF⟩, ⟨nat_lit 0xAFFFE, nat_lit 0xAFFFF⟩,
     ⟨nat_lit 0xBFFFE, nat_lit 0xBFFFF⟩, ⟨nat_lit 0xCFFFE, nat_lit 0xCFFFF⟩,
     ⟨nat_lit 0xDFFFE, nat_lit 0xDFFFF⟩, ⟨nat_lit 0xEFFFE, nat_lit 0xEFFFF⟩,
     ⟨nat_lit 0xFFFFE, nat_lit 0xFFFFF⟩, ⟨nat_lit 0x10FFFE, nat_lit 0x10FFFF⟩]),
  ("Deprecated",
    [⟨nat_lit 0x149, nat_lit 0x149⟩, ⟨nat_lit 0x673, nat_lit 0x673⟩,
     ⟨nat_lit 0xF77, nat_lit 0xF77⟩, ⟨nat_lit 0xF79, nat_lit 0xF79⟩,
     ⟨nat_lit 0x17A3, nat_lit 0x17A4⟩, ⟨nat_lit 0x206A, nat_lit 0x206F⟩,
     ⟨nat_lit 0x2329, nat_lit 0x232A⟩, ⟨nat_lit 0xE0001, nat_lit 0xE0001⟩])]

end Unicode

end EcmaRegex
