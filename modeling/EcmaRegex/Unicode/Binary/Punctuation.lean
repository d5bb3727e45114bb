import EcmaRegex.CodePointSet.Basic
/-!
# Binary properties of punctuation

Dashes, quotation marks, and the punctuation that ends a sentence or a clause.
Unicode character database, version 16.0; each table lists the code points that have the
property, as ranges, by the property's long name.
-/

namespace EcmaRegex

namespace Unicode

set_option maxRecDepth 20000 in
/-- Binary properties of punctuation, as ranges, by long name. -/
def punctuationTables : List (String × List CodePointRange) := [
  ("Dash",
    [⟨nat_lit 0x2D, nat_lit 0x2D⟩, ⟨nat_lit 0x58A, nat_lit 0x58A⟩, ⟨nat_lit 0x5BE, nat_lit 0x5BE⟩,
     ⟨nat_lit 0x1400, nat_lit 0x1400⟩, ⟨nat_lit 0x1806, nat_lit 0x1806⟩,
     ⟨nat_lit 0x2010, nat_lit 0x2015⟩, ⟨nat_lit 0x2053, nat_lit 0x2053⟩,
     ⟨nat_lit 0x207B, nat_lit 0x207B⟩, ⟨nat_lit 0x208B, nat_lit 0x208B⟩,
     ⟨nat_lit 0x2212, nat_lit 0x2212⟩, ⟨nat_lit 0x2E17, nat_lit 0x2E17⟩,
     ⟨nat_lit 0x2E1A, nat_lit 0x2E1A⟩, ⟨nat_lit 0x2E3A, nat_lit 0x2E3B⟩,
     ⟨nat_lit 0x2E40, nat_lit 0x2E40⟩, ⟨nat_lit 0x2E5D, nat_lit 0x2E5D⟩,
     ⟨nat_lit 0x301C, nat_lit 0x301C⟩, ⟨nat_lit 0x3030, nat_lit 0x3030⟩,
     ⟨nat_lit 0x30A0, nat_lit 0x30A0⟩, ⟨nat_lit 0xFE31, nat_lit 0xFE32⟩,
     ⟨nat_lit 0xFE58, nat_lit 0xFE58⟩, ⟨nat_lit 0xFE63, nat_lit 0xFE63⟩,
     ⟨nat_lit 0xFF0D, nat_lit 0xFF0D⟩, ⟨nat_lit 0x10D6E, nat_lit 0x10D6E⟩,
     ⟨nat_lit 0x10EAD, nat_lit 0x10EAD⟩]),
  ("Quotation_Mark",
    [⟨nat_lit 0x22, nat_lit 0x22⟩, ⟨nat_lit 0x27, nat_lit 0x27⟩, ⟨nat_lit 0xAB, nat_lit 0xAB⟩,
     ⟨nat_lit 0xBB, nat_lit 0xBB⟩, ⟨nat_lit 0x2018, nat_lit 0x201F⟩,
     ⟨nat_lit 0x2039, nat_lit 0x203A⟩, ⟨nat_lit 0x2E42, nat_lit 0x2E42⟩,
     ⟨nat_lit 0x300C, nat_lit 0x300F⟩, ⟨nat_lit 0x301D, nat_lit 0x301F⟩,
     ⟨nat_lit 0xFE41, nat_lit 0xFE44⟩, ⟨nat_lit 0xFF02, nat_lit 0xFF02⟩,
     ⟨nat_lit 0xFF07, nat_lit 0xFF07⟩, ⟨nat_lit 0xFF62, nat_lit 0xFF63⟩]),
  ("Terminal_Punctuation",
    [⟨nat_lit 0x21, nat_lit 0x21⟩, ⟨nat_lit 0x2C, nat_lit 0x2C⟩, ⟨nat_lit 0x2E, nat_lit 0x2E⟩,
     ⟨nat_lit 0x3A, nat_lit 0x3B⟩, ⟨nat_lit 0x3F, nat_lit 0x3F⟩, ⟨nat_lit 0x37E, nat_lit 0x37E⟩,
     ⟨nat_lit 0x387, nat_lit 0x387⟩, ⟨nat_lit 0x589, nat_lit 0x589⟩,
     ⟨nat_lit 0x5C3, nat_lit 0x5C3⟩, ⟨nat_lit 0x60C, nat_lit 0x60C⟩,
     ⟨nat_lit 0x61B, nat_lit 0x61B⟩, ⟨nat_lit 0x61D, nat_lit 0x61F⟩,
     ⟨nat_lit 0x6D4, nat_lit 0x6D4⟩, ⟨nat_lit 0x700, nat_lit 0x70A⟩,
     ⟨nat_lit 0x70C, nat_lit 0x70C⟩, ⟨nat_lit 0x7F8, nat_lit 0x7F9⟩,
     ⟨nat_lit 0x830, nat_lit 0x835⟩, ⟨nat_lit 0x837, nat_lit 0x83E⟩,
     ⟨nat_lit 0x85E, nat_lit 0x85E⟩, ⟨nat_lit 0x964, nat_lit 0x965⟩,
     ⟨nat_lit 0xE5A, nat_lit 0xE5B⟩, ⟨nat_lit 0xF08, nat_lit 0xF08⟩,
     ⟨nat_lit 0xF0D, nat_lit 0xF12⟩, ⟨nat_lit 0x104A, nat_lit 0x104B⟩,
     ⟨nat_lit 0x1361, nat_lit 0x1368⟩, ⟨nat_lit 0x166E, nat_lit 0x166E⟩,
     ⟨nat_lit 0x16EB, nat_lit 0x16ED⟩, ⟨nat_lit 0x1735, nat_lit 0x1736⟩,
     ⟨nat_lit 0x17D4, nat_lit 0x17D6⟩, ⟨nat_lit 0x17DA, nat_lit 0x17DA⟩,
     ⟨nat_lit 0x1802, nat_lit 0x1805⟩, ⟨nat_lit 0x1808, nat_lit 0x1809⟩,
     ⟨nat_lit 0x1944, nat_lit 0x1945⟩, ⟨nat_lit 0x1AA8, nat_lit 0x1AAB⟩,
     ⟨nat_lit 0x1B4E, nat_lit 0x1B4F⟩, ⟨nat_lit 0x1B5A, nat_lit 0x1B5B⟩,
     ⟨nat_lit 0x1B5D, nat_lit 0x1B5F⟩, ⟨nat_lit 0x1B7D, nat_lit 0x1B7F⟩,
     ⟨nat_lit 0x1C3B, nat_lit 0x1C3F⟩, ⟨nat_lit 0x1C7E, nat_lit 0x1C7F⟩,
     ⟨nat_lit 0x2024, nat_lit 0x2024⟩, ⟨nat_lit 0x203C, nat_lit 0x203D⟩,
     ⟨nat_lit 0x2047, nat_lit 0x2049⟩, ⟨nat_lit 0x2CF9, nat_lit 0x2CFB⟩,
     ⟨nat_lit 0x2E2E, nat_lit 0x2E2E⟩, ⟨nat_lit 0x2E3C, nat_lit 0x2E3C⟩,
     ⟨nat_lit 0x2E41, nat_lit 0x2E41⟩, ⟨nat_lit 0x2E4C, nat_lit 0x2E4C⟩,
     ⟨nat_lit 0x2E4E, nat_lit 0x2E4F⟩, ⟨nat_lit 0x2E53, nat_lit 0x2E54⟩,
     ⟨nat_lit 0x3001, nat_lit 0x3002⟩, ⟨nat_lit 0xA4FE, nat_lit 0xA4FF⟩,
     ⟨nat_lit 0xA60D, nat_lit 0xA60F⟩, ⟨nat_lit 0xA6F3, nat_lit 0xA6F7⟩,
     ⟨nat_lit 0xA876, nat_lit 0xA877⟩, ⟨nat_lit 0xA8CE, nat_lit 0xA8CF⟩,
     ⟨nat_lit 0xA92F, nat_lit 0xA92F⟩, ⟨nat_lit 0xA9C7, nat_lit 0xA9C9⟩,
     ⟨nat_lit 0xAA5D, nat_lit 0xAA5F⟩, ⟨nat_lit 0xAADF, nat_lit 0xAADF⟩,
     ⟨nat_lit 0xAAF0, nat_lit 0xAAF1⟩, ⟨nat_lit 0xABEB, nat_lit 0xABEB⟩,
     ⟨nat_lit 0xFE12, nat_lit 0xFE12⟩, ⟨nat_lit 0xFE15, nat_lit 0xFE16⟩,
     ⟨nat_lit 0xFE50, nat_lit 0xFE52⟩, ⟨nat_lit 0xFE54, nat_lit 0xFE57⟩,
     ⟨nat_lit 0xFF01, nat_lit 0xFF01⟩, ⟨nat_lit 0xFF0C, nat_lit 0xFF0C⟩,
     ⟨nat_lit 0xFF0E, nat_lit 0xFF0E⟩, ⟨nat_lit 0xFF1A, nat_lit 0xFF1B⟩,
     ⟨nat_lit 0xFF1F, nat_lit 0xFF1F⟩, ⟨nat_lit 0xFF61, nat_lit 0xFF61⟩,
     ⟨nat_lit 0xFF64, nat_lit 0xFF64⟩, ⟨nat_lit 0x1039F, nat_lit 0x1039F⟩,
     ⟨nat_lit 0x103D0, nat_lit 0x103D0⟩, ⟨nat_lit 0x10857, nat_lit 0x10857⟩,
     ⟨nat_lit 0x1091F, nat_lit 0x1091F⟩, ⟨nat_lit 0x10A56, nat_lit 0x10A57⟩,
     ⟨nat_lit 0x10AF0, nat_lit 0x10AF5⟩, ⟨nat_lit 0x10B3A, nat_lit 0x10B3F⟩,
     ⟨nat_lit 0x10B99, nat_lit 0x10B9C⟩, ⟨nat_lit 0x10F55, nat_lit 0x10F59⟩,
     ⟨nat_lit 0x10F86, nat_lit 0x10F89⟩, ⟨nat_lit 0x11047, nat_lit 0x1104D⟩,
     ⟨nat_lit 0x110BE, nat_lit 0x110C1⟩, ⟨nat_lit 0x11141, nat_lit 0x11143⟩,
     ⟨nat_lit 0x111C5, nat_lit 0x111C6⟩, ⟨nat_lit 0x111CD, nat_lit 0x111CD⟩,
     ⟨nat_lit 0x111DE, nat_lit 0x111DF⟩, ⟨nat_lit 0x11238, nat_lit 0x1123C⟩,
     ⟨nat_lit 0x112A9, nat_lit 0x112A9⟩, ⟨nat_lit 0x113D4, nat_lit 0x113D5⟩,
     ⟨nat_lit 0x1144B, nat_lit 0x1144D⟩, ⟨nat_lit 0x1145A, nat_lit 0x1145B⟩,
     ⟨nat_lit 0x115C2, nat_lit 0x115C5⟩, ⟨nat_lit 0x115C9, nat_lit 0x115D7⟩,
     ⟨nat_lit 0x11641, nat_lit 0x11642⟩, ⟨nat_lit 0x1173C, nat_lit 0x1173E⟩,
     ⟨nat_lit 0x11944, nat_lit 0x11944⟩, ⟨nat_lit 0x11946, nat_lit 0x11946⟩,
     ⟨nat_lit 0x11A42, nat_lit 0x11A43⟩, ⟨nat_lit 0x11A9B, nat_lit 0x11A9C⟩,
     ⟨nat_lit 0x11AA1, nat_lit 0x11AA2⟩, ⟨nat_lit 0x11C41, nat_lit 0x11C43⟩,
     ⟨nat_lit 0x11C71, nat_lit 0x11C71⟩, ⟨nat_lit 0x11EF7, nat_lit 0x11EF8⟩,
     ⟨nat_lit 0x11F43, nat_lit 0x11F44⟩, ⟨nat_lit 0x12470, nat_lit 0x12474⟩,
     ⟨nat_lit 0x16A6E, nat_lit 0x16A6F⟩, ⟨nat_lit 0x16AF5, nat_lit 0x16AF5⟩,
     ⟨nat_lit 0x16B37, nat_lit 0x16B39⟩, ⟨nat_lit 0x16B44, nat_lit 0x16B44⟩,
     ⟨nat_lit 0x16D6E, nat_lit 0x16D6F⟩, ⟨nat_lit 0x16E97, nat_lit 0x16E98⟩,
     ⟨nat_lit 0x1BC9F, nat_lit 0x1BC9F⟩, ⟨nat_lit 0x1DA87, nat_lit 0x1DA8A⟩]),
  ("Sentence_Terminal",
    [⟨nat_lit 0x21, nat_lit 0x21⟩, ⟨nat_lit 0x2E, nat_lit 0x2E⟩, ⟨nat_lit 0x3F, nat_lit 0x3F⟩,
     ⟨nat_lit 0x589, nat_lit 0x589⟩, ⟨nat_lit 0x61D, nat_lit 0x61F⟩,
     ⟨nat_lit 0x6D4, nat_lit 0x6D4⟩, ⟨nat_lit 0x700, nat_lit 0x702⟩,
     ⟨nat_lit 0x7F9, nat_lit 0x7F9⟩, ⟨nat_lit 0x837, nat_lit 0x837⟩,
     ⟨nat_lit 0x839, nat_lit 0x839⟩, ⟨nat_lit 0x83D, nat_lit 0x83E⟩,
     ⟨nat_lit 0x964, nat_lit 0x965⟩, ⟨nat_lit 0x104A, nat_lit 0x104B⟩,
     ⟨nat_lit 0x1362, nat_lit 0x1362⟩, ⟨nat_lit 0x1367, nat_lit 0x1368⟩,
     ⟨nat_lit 0x166E, nat_lit 0x166E⟩, ⟨nat_lit 0x1735, nat_lit 0x1736⟩,
     ⟨nat_lit 0x17D4, nat_lit 0x17D5⟩, ⟨nat_lit 0x1803, nat_lit 0x1803⟩,
     ⟨nat_lit 0x1809, nat_lit 0x1809⟩, ⟨nat_lit 0x1944, nat_lit 0x1945⟩,
     ⟨nat_lit 0x1AA8, nat_lit 0x1AAB⟩, ⟨nat_lit 0x1B4E, nat_lit 0x1B4F⟩,
     ⟨nat_lit 0x1B5A, nat_lit 0x1B5B⟩, ⟨nat_lit 0x1B5E, nat_lit 0x1B5F⟩,
     ⟨nat_lit 0x1B7D, nat_lit 0x1B7F⟩, ⟨nat_lit 0x1C3B, nat_lit 0x1C3C⟩,
     ⟨nat_lit 0x1C7E, nat_lit 0x1C7F⟩, ⟨nat_lit 0x2024, nat_lit 0x2024⟩,
     ⟨nat_lit 0x203C, nat_lit 0x203D⟩, ⟨nat_lit 0x2047, nat_lit 0x2049⟩,
     ⟨nat_lit 0x2CF9, nat_lit 0x2CFB⟩, ⟨nat_lit 0x2E2E, nat_lit 0x2E2E⟩,
     ⟨nat_lit 0x2E3C, nat_lit 0x2E3C⟩, ⟨nat_lit 0x2E53, nat_lit 0x2E54⟩,
     ⟨nat_lit 0x3002, nat_lit 0x3002⟩, ⟨nat_lit 0xA4FF, nat_lit 0xA4FF⟩,
     ⟨nat_lit 0xA60E, nat_lit 0xA60F⟩, ⟨nat_lit 0xA6F3, nat_lit 0xA6F3⟩,
     ⟨nat_lit 0xA6F7, nat_lit 0xA6F7⟩, ⟨nat_lit 0xA876, nat_lit 0xA877⟩,
     ⟨nat_lit 0xA8CE, nat_lit 0xA8CF⟩, ⟨nat_lit 0xA92F, nat_lit 0xA92F⟩,
     ⟨nat_lit 0xA9C8, nat_lit 0xA9C9⟩, ⟨nat_lit 0xAA5D, nat_lit 0xAA5F⟩,
     ⟨nat_lit 0xAAF0, nat_lit 0xAAF1⟩, ⟨nat_lit 0xABEB, nat_lit 0xABEB⟩,
     ⟨nat_lit 0xFE12, nat_lit 0xFE12⟩, ⟨nat_lit 0xFE15, nat_lit 0xFE16⟩,
     ⟨nat_lit 0xFE52, nat_lit 0xFE52⟩, ⟨nat_lit 0xFE56, nat_lit 0xFE57⟩,
     ⟨nat_lit 0xFF01, nat_lit 0xFF01⟩, ⟨nat_lit 0xFF0E, nat_lit 0xFF0E⟩,
     ⟨nat_lit 0xFF1F, nat_lit 0xFF1F⟩, ⟨nat_lit 0xFF61, nat_lit 0xFF61⟩,
     ⟨nat_lit 0x10A56, nat_lit 0x10A57⟩, ⟨nat_lit 0x10F55, nat_lit 0x10F59⟩,
     ⟨nat_lit 0x10F86, nat_lit 0x10F89⟩, ⟨nat_lit 0x11047, nat_lit 0x11048⟩,
     ⟨nat_lit 0x110BE, nat_lit 0x110C1⟩, ⟨nat_lit 0x11141, nat_lit 0x11143⟩,
     ⟨nat_lit 0x111C5, nat_lit 0x111C6⟩, ⟨nat_lit 0x111CD, nat_lit 0x111CD⟩,
     ⟨nat_lit 0x111DE, nat_lit 0x111DF⟩, ⟨nat_lit 0x11238, nat_lit 0x11239⟩,
     ⟨nat_lit 0x1123B, nat_lit 0x1123C⟩, ⟨nat_lit 0x112A9, nat_lit 0x112A9⟩,
     ⟨nat_lit 0x113D4, nat_lit 0x113D5⟩, ⟨nat_lit 0x1144B, nat_lit 0x1144C⟩,
     ⟨nat_lit 0x115C2, nat_lit 0x115C3⟩, ⟨nat_lit 0x115C9, nat_lit 0x115D7⟩,
     ⟨nat_lit 0x11641, nat_lit 0x11642⟩, ⟨nat_lit 0x1173C, nat_lit 0x1173E⟩,
     ⟨nat_lit 0x11944, nat_lit 0x11944⟩, ⟨nat_lit 0x11946, nat_lit 0x11946⟩,
     ⟨nat_lit 0x11A42, nat_lit 0x11A43⟩, ⟨nat_lit 0x11A9B, nat_lit 0x11A9C⟩,
     ⟨nat_lit 0x11C41, nat_lit 0x11C42⟩, ⟨nat_lit 0x11EF7, nat_lit 0x11EF8⟩,
     ⟨nat_lit 0x11F43, nat_lit 0x11F44⟩, ⟨nat_lit 0x16A6E, nat_lit 0x16A6F⟩,
     ⟨nat_lit 0x16AF5, nat_lit 0x16AF5⟩, ⟨nat_lit 0x16B37, nat_lit 0x16B38⟩,
     ⟨nat_lit 0x16B44, nat_lit 0x16B44⟩, ⟨nat_lit 0x16D6E, nat_lit 0x16D6F⟩,
     ⟨nat_lit 0x16E98, nat_lit 0x16E98⟩, ⟨nat_lit 0x1BC9F, nat_lit 0x1BC9F⟩,
     ⟨nat_lit 0x1DA88, nat_lit 0x1DA88⟩])]

end Unicode

end EcmaRegex
