import EcmaRegex.CodePointSet.Basic
/-!
# Binary properties of letters

Alphabetic characters, diacritics, extenders, and the characters written before the one they
logically follow.
Unicode character database, version 16.0; each table lists the code points that have the
property, as ranges, by the property's long name.
-/

namespace EcmaRegex

namespace Unicode

set_option maxRecDepth 20000 in
/-- Binary properties of letters, as ranges, by long name. -/
def letterTables : List (String × List CodePointRange) := [
  ("Alphabetic",
    [⟨nat_lit 0x41, nat_lit 0x5A⟩, ⟨nat_lit 0x61, nat_lit 0x7A⟩, ⟨nat_lit 0xAA, nat_lit 0xAA⟩,
     ⟨nat_lit 0xB5, nat_lit 0xB5⟩, ⟨nat_lit 0xBA, nat_lit 0xBA⟩, ⟨nat_lit 0xC0, nat_lit 0xD6⟩,
     ⟨nat_lit 0xD8, nat_lit 0xF6⟩, ⟨nat_lit 0xF8, nat_lit 0x2C1⟩, ⟨nat_lit 0x2C6, nat_lit 0x2D1⟩,
     ⟨nat_lit 0x2E0, nat_lit 0x2E4⟩, ⟨nat_lit 0x2EC, nat_lit 0x2EC⟩,
     ⟨nat_lit 0x2EE, nat_lit 0x2EE⟩, ⟨nat_lit 0x345, nat_lit 0x345⟩,
     ⟨nat_lit 0x363, nat_lit 0x374⟩, ⟨nat_lit 0x376, nat_lit 0x377⟩,
     ⟨nat_lit 0x37A, nat_lit 0x37D⟩, ⟨nat_lit 0x37F, nat_lit 0x37F⟩,
     ⟨nat_lit 0x386, nat_lit 0x386⟩, ⟨nat_lit 0x388, nat_lit 0x38A⟩,
     ⟨nat_lit 0x38C, nat_lit 0x38C⟩, ⟨nat_lit 0x38E, nat_lit 0x3A1⟩,
     ⟨nat_lit 0x3A3, nat_lit 0x3F5⟩, ⟨nat_lit 0x3F7, nat_lit 0x481⟩,
     ⟨nat_lit 0x48A, nat_lit 0x52F⟩, ⟨nat_lit 0x531, nat_lit 0x556⟩,
     ⟨nat_lit 0x559, nat_lit 0x559⟩, ⟨nat_lit 0x560, nat_lit 0x588⟩,
     ⟨nat_lit 0x5B0, nat_lit 0x5BD⟩, ⟨nat_lit 0x5BF, nat_lit 0x5BF⟩,
     ⟨nat_lit 0x5C1, nat_lit 0x5C2⟩, ⟨nat_lit 0x5C4, nat_lit 0x5C5⟩,
     ⟨nat_lit 0x5C7, nat_lit 0x5C7⟩, ⟨nat_lit 0x5D0, nat_lit 0x5EA⟩,
     ⟨nat_lit 0x5EF, nat_lit 0x5F2⟩, ⟨nat_lit 0x610, nat_lit 0x61A⟩,
     ⟨nat_lit 0x620, nat_lit 0x657⟩, ⟨nat_lit 0x659, nat_lit 0x65F⟩,
     ⟨nat_lit 0x66E, nat_lit 0x6D3⟩, ⟨nat_lit 0x6D5, nat_lit 0x6DC⟩,
     ⟨nat_lit 0x6E1, nat_lit 0x6E8⟩, ⟨nat_lit 0x6ED, nat_lit 0x6EF⟩,
     ⟨nat_lit 0x6FA, nat_lit 0x6FC⟩, ⟨nat_lit 0x6FF, nat_lit 0x6FF⟩,
     ⟨nat_lit 0x710, nat_lit 0x73F⟩, ⟨nat_lit 0x74D, nat_lit 0x7B1⟩,
     ⟨nat_lit 0x7CA, nat_lit 0x7EA⟩, ⟨nat_lit 0x7F4, nat_lit 0x7F5⟩,
     ⟨nat_lit 0x7FA, nat_lit 0x7FA⟩, ⟨nat_lit 0x800, nat_lit 0x817⟩,
     ⟨nat_lit 0x81A, nat_lit 0x82C⟩, ⟨nat_lit 0x840, nat_lit 0x858⟩,
     ⟨nat_lit 0x860, nat_lit 0x86A⟩, ⟨nat_lit 0x870, nat_lit 0x887⟩,
     ⟨nat_lit 0x889, nat_lit 0x88E⟩, ⟨nat_lit 0x897, nat_lit 0x897⟩,
     ⟨nat_lit 0x8A0, nat_lit 0x8C9⟩, ⟨nat_lit 0x8D4, nat_lit 0x8DF⟩,
     ⟨nat_lit 0x8E3, nat_lit 0x8E9⟩, ⟨nat_lit 0x8F0, nat_lit 0x93B⟩,
     ⟨nat_lit 0x93D, nat_lit 0x94C⟩, ⟨nat_lit 0x94E, nat_lit 0x950⟩,
     ⟨nat_lit 0x955, nat_lit 0x963⟩, ⟨nat_lit 0x971, nat_lit 0x983⟩,
     ⟨nat_lit 0x985, nat_lit 0x98C⟩, ⟨nat_lit 0x98F, nat_lit 0x990⟩,
     ⟨nat_lit 0x993, nat_lit 0x9A8⟩, ⟨nat_lit 0x9AA, nat_lit 0x9B0⟩,
     ⟨nat_lit 0x9B2, nat_lit 0x9B2⟩, ⟨nat_lit 0x9B6, nat_lit 0x9B9⟩,
     ⟨nat_lit 0x9BD, nat_lit 0x9C4⟩, ⟨nat_lit 0x9C7, nat_lit 0x9C8⟩,
     ⟨nat_lit 0x9CB, nat_lit 0x9CC⟩, ⟨nat_lit 0x9CE, nat_lit 0x9CE⟩,
     ⟨nat_lit 0x9D7, nat_lit 0x9D7⟩, ⟨nat_lit 0x9DC, nat_lit 0x9DD⟩,
     ⟨nat_lit 0x9DF, nat_lit 0x9E3⟩, ⟨nat_lit 0x9F0, nat_lit 0x9F1⟩,
     ⟨nat_lit 0x9FC, nat_lit 0x9FC⟩, ⟨nat_lit 0xA01, nat_lit 0xA03⟩,
     ⟨nat_lit 0xA05, nat_lit 0xA0A⟩, ⟨nat_lit 0xA0F, nat_lit 0xA10⟩,
     ⟨nat_lit 0xA13, nat_lit 0xA28⟩, ⟨nat_lit 0xA2A, nat_lit 0xA30⟩,
     ⟨nat_lit 0xA32, nat_lit 0xA33⟩, ⟨nat_lit 0xA35, nat_lit 0xA36⟩,
     ⟨nat_lit 0xA38, nat_lit 0xA39⟩, ⟨nat_lit 0xA3E, nat_lit 0xA42⟩,
     ⟨nat_lit 0xA47, nat_lit 0xA48⟩, ⟨nat_lit 0xA4B, nat_lit 0xA4C⟩,
     ⟨nat_lit 0xA51, nat_lit 0xA51⟩, ⟨nat_lit 0xA59, nat_lit 0xA5C⟩,
     ⟨nat_lit 0xA5E, nat_lit 0xA5E⟩, ⟨nat_lit 0xA70, nat_lit 0xA75⟩,
     ⟨nat_lit 0xA81, nat_lit 0xA83⟩, ⟨nat_lit 0xA85, nat_lit 0xA8D⟩,
     ⟨nat_lit 0xA8F, nat_lit 0xA91⟩, ⟨nat_lit 0xA93, nat_lit 0xAA8⟩,
     ⟨nat_lit 0xAAA, nat_lit 0xAB0⟩, ⟨nat_lit 0xAB2, nat_lit 0xAB3⟩,
     ⟨nat_lit 0xAB5, nat_lit 0xAB9⟩, ⟨nat_lit 0xABD, nat_lit 0xAC5⟩,
     ⟨nat_lit 0xAC7, nat_lit 0xAC9⟩, ⟨nat_lit 0xACB, nat_lit 0xACC⟩,
     ⟨nat_lit 0xAD0, nat_lit 0xAD0⟩, ⟨nat_lit 0xAE0, nat_lit 0xAE3⟩,
     ⟨nat_lit 0xAF9, nat_lit 0xAFC⟩, ⟨nat_lit 0xB01, nat_lit 0xB03⟩,
     ⟨nat_lit 0xB05, nat_lit 0xB0C⟩, ⟨nat_lit 0xB0F, nat_lit 0xB10⟩,
     ⟨nat_lit 0xB13, nat_lit 0xB28⟩, ⟨nat_lit 0xB2A, nat_lit 0xB30⟩,
     ⟨nat_lit 0xB32, nat_lit 0xB33⟩, ⟨nat_lit 0xB35, nat_lit 0xB39⟩,
     ⟨nat_lit 0xB3D, nat_lit 0xB44⟩, ⟨nat_lit 0xB47, nat_lit 0xB48⟩,
     ⟨nat_lit 0xB4B, nat_lit 0xB4C⟩, ⟨nat_lit 0xB56, nat_lit 0xB57⟩,
     ⟨nat_lit 0xB5C, nat_lit 0xB5D⟩, ⟨nat_lit 0xB5F, nat_lit 0xB63⟩,
     ⟨nat_lit 0xB71, nat_lit 0xB71⟩, ⟨nat_lit 0xB82, nat_lit 0xB83⟩,
     ⟨nat_lit 0xB85, nat_lit 0xB8A⟩, ⟨nat_lit 0xB8E, nat_lit 0xB90⟩,
     ⟨nat_lit 0xB92, nat_lit 0xB95⟩, ⟨nat_lit 0xB99, nat_lit 0xB9A⟩,
     ⟨nat_lit 0xB9C, nat_lit 0xB9C⟩, ⟨nat_lit 0xB9E, nat_lit 0xB9F⟩,
     ⟨nat_lit 0xBA3, nat_lit 0xBA4⟩, ⟨nat_lit 0xBA8, nat_lit 0xBAA⟩,
     ⟨nat_lit 0xBAE, nat_lit 0xBB9⟩, ⟨nat_lit 0xBBE, nat_lit 0xBC2⟩,
     ⟨nat_lit 0xBC6, nat_lit 0xBC8⟩, ⟨nat_lit 0xBCA, nat_lit 0xBCC⟩,
     ⟨nat_lit 0xBD0, nat_lit 0xBD0⟩, ⟨nat_lit 0xBD7, nat_lit 0xBD7⟩,
     ⟨nat_lit 0xC00, nat_lit 0xC0C⟩, ⟨nat_lit 0xC0E, nat_lit 0xC10⟩,
     ⟨nat_lit 0xC12, nat_lit 0xC28⟩, ⟨nat_lit 0xC2A, nat_lit 0xC39⟩,
     ⟨nat_lit 0xC3D, nat_lit 0xC44⟩, ⟨nat_lit 0xC46, nat_lit 0xC48⟩,
     ⟨nat_lit 0xC4A, nat_lit 0xC4C⟩, ⟨nat_lit 0xC55, nat_lit 0xC56⟩,
     ⟨nat_lit 0xC58, nat_lit 0xC5A⟩, ⟨nat_lit 0xC5D, nat_lit 0xC5D⟩,
     ⟨nat_lit 0xC60, nat_lit 0xC63⟩, ⟨nat_lit 0xC80, nat_lit 0xC83⟩,
     ⟨nat_lit 0xC85, nat_lit 0xC8C⟩, ⟨nat_lit 0xC8E, nat_lit 0xC90⟩,
     ⟨nat_lit 0xC92, nat_lit 0xCA8⟩, ⟨nat_lit 0xCAA, nat_lit 0xCB3⟩,
     ⟨nat_lit 0xCB5, nat_lit 0xCB9⟩, ⟨nat_lit 0xCBD, nat_lit 0xCC4⟩,
     ⟨nat_lit 0xCC6, nat_lit 0xCC8⟩, ⟨nat_lit 0xCCA, nat_lit 0xCCC⟩,
     ⟨nat_lit 0xCD5, nat_lit 0xCD6⟩, ⟨nat_lit 0xCDD, nat_lit 0xCDE⟩,
     ⟨nat_lit 0xCE0, nat_lit 0xCE3⟩, ⟨nat_lit 0xCF1, nat_lit 0xCF3⟩,
     ⟨nat_lit 0xD00, nat_lit 0xD0C⟩, ⟨nat_lit 0xD0E, nat_lit 0xD10⟩,
     ⟨nat_lit 0xD12, nat_lit 0xD3A⟩, ⟨nat_lit 0xD3D, nat_lit 0xD44⟩,
     ⟨nat_lit 0xD46, nat_lit 0xD48⟩, ⟨nat_lit 0xD4A, nat_lit 0xD4C⟩,
     ⟨nat_lit 0xD4E, nat_lit 0xD4E⟩, ⟨nat_lit 0xD54, nat_lit 0xD57⟩,
     ⟨nat_lit 0xD5F, nat_lit 0xD63⟩, ⟨nat_lit 0xD7A, nat_lit 0xD7F⟩,
     ⟨nat_lit 0xD81, nat_lit 0xD83⟩, ⟨nat_lit 0xD85, nat_lit 0xD96⟩,
     ⟨nat_lit 0xD9A, nat_lit 0xDB1⟩, ⟨nat_lit 0xDB3, nat_lit 0xDBB⟩,
     ⟨nat_lit 0xDBD, nat_lit 0xDBD⟩, ⟨nat_lit 0xDC0, nat_lit 0xDC6⟩,
     ⟨nat_lit 0xDCF, nat_lit 0xDD4⟩, ⟨nat_lit 0xDD6, nat_lit 0xDD6⟩,
     ⟨nat_lit 0xDD8, nat_lit 0xDDF⟩, ⟨nat_lit 0xDF2, nat_lit 0xDF3⟩,
     ⟨nat_lit 0xE01, nat_lit 0xE3A⟩, ⟨nat_lit 0xE40, nat_lit 0xE46⟩,
     ⟨nat_lit 0xE4D, nat_lit 0xE4D⟩, ⟨nat_lit 0xE81, nat_lit 0xE82⟩,
     ⟨nat_lit 0xE84, nat_lit 0xE84⟩, ⟨nat_lit 0xE86, nat_lit 0xE8A⟩,
     ⟨nat_lit 0xE8C, nat_lit 0xEA3⟩, ⟨nat_lit 0xEA5, nat_lit 0xEA5⟩,
     ⟨nat_lit 0xEA7, nat_lit 0xEB9⟩, ⟨nat_lit 0xEBB, nat_lit 0xEBD⟩,
     ⟨nat_lit 0xEC0, nat_lit 0xEC4⟩, ⟨nat_lit 0xEC6, nat_lit 0xEC6⟩,
     ⟨nat_lit 0xECD, nat_lit 0xECD⟩, ⟨nat_lit 0xEDC, nat_lit 0xEDF⟩,
     ⟨nat_lit 0xF00, nat_lit 0xF00⟩, ⟨nat_lit 0xF40, nat_lit 0xF47⟩,
     ⟨nat_lit 0xF49, nat_lit 0xF6C⟩, ⟨nat_lit 0xF71, nat_lit 0xF83⟩,
     ⟨nat_lit 0xF88, nat_lit 0xF97⟩, ⟨nat_lit 0xF99, nat_lit 0xFBC⟩,
     ⟨nat_lit 0x1000, nat_lit 0x1036⟩, ⟨nat_lit 0x1038, nat_lit 0x1038⟩,
     ⟨nat_lit 0x103B, nat_lit 0x103F⟩, ⟨nat_lit 0x1050, nat_lit 0x108F⟩,
     ⟨nat_lit 0x109A, nat_lit 0x109D⟩, ⟨nat_lit 0x10A0, nat_lit 0x10C5⟩,
     ⟨nat_lit 0x10C7, nat_lit 0x10C7⟩, ⟨nat_lit 0x10CD, nat_lit 0x10CD⟩,
     ⟨nat_lit 0x10D0, nat_lit 0x10FA⟩, ⟨nat_lit 0x10FC, nat_lit 0x1248⟩,
     ⟨nat_lit 0x124A, nat_lit 0x124D⟩, ⟨nat_lit 0x1250, nat_lit 0x1256⟩,
     ⟨nat_lit 0x1258, nat_lit 0x1258⟩, ⟨nat_lit 0x125A, nat_lit 0x125D⟩,
     ⟨nat_lit 0x1260, nat_lit 0x1288⟩, ⟨nat_lit 0x128A, nat_lit 0x128D⟩,
     ⟨nat_lit 0x1290, nat_lit 0x12B0⟩, ⟨nat_lit 0x12B2, nat_lit 0x12B5⟩,
     ⟨nat_lit 0x12B8, nat_lit 0x12BE⟩, ⟨nat_lit 0x12C0, nat_lit 0x12C0⟩,
     ⟨nat_lit 0x12C2, nat_lit 0x12C5⟩, ⟨nat_lit 0x12C8, nat_lit 0x12D6⟩,
     ⟨nat_lit 0x12D8, nat_lit 0x1310⟩, ⟨nat_lit 0x1312, nat_lit 0x1315⟩,
     ⟨nat_lit 0x1318, nat_lit 0x135A⟩, ⟨nat_lit 0x1380, nat_lit 0x138F⟩,
     ⟨nat_lit 0x13A0, nat_lit 0x13F5⟩, ⟨nat_lit 0x13F8, nat_lit 0x13FD⟩,
     ⟨nat_lit 0x1401, nat_lit 0x166C⟩, ⟨nat_lit 0x166F, nat_lit 0x167F⟩,
     ⟨nat_lit 0x1681, nat_lit 0x169A⟩, ⟨nat_lit 0x16A0, nat_lit 0x16EA⟩,
     ⟨nat_lit 0x16EE, nat_lit 0x16F8⟩, ⟨nat_lit 0x1700, nat_lit 0x1713⟩,
     ⟨nat_lit 0x171F, nat_lit 0x1733⟩, ⟨nat_lit 0x1740, nat_lit 0x1753⟩,
     ⟨nat_lit 0x1760, nat_lit 0x176C⟩, ⟨nat_lit 0x176E, nat_lit 0x1770⟩,
     ⟨nat_lit 0x1772, nat_lit 0x1773⟩, ⟨nat_lit 0x1780, nat_lit 0x17B3⟩,
     ⟨nat_lit 0x17B6, nat_lit 0x17C8⟩, ⟨nat_lit 0x17D7, nat_lit 0x17D7⟩,
     ⟨nat_lit 0x17DC, nat_lit 0x17DC⟩, ⟨nat_lit 0x1820, nat_lit 0x1878⟩,
     ⟨nat_lit 0x1880, nat_lit 0x18AA⟩, ⟨nat_lit 0x18B0, nat_lit 0x18F5⟩,
     ⟨nat_lit 0x1900, nat_lit 0x191E⟩, ⟨nat_lit 0x1920, nat_lit 0x192B⟩,
     ⟨nat_lit 0x1930, nat_lit 0x1938⟩, ⟨nat_lit 0x1950, nat_lit 0x196D⟩,
     ⟨nat_lit 0x1970, nat_lit 0x1974⟩, ⟨nat_lit 0x1980, nat_lit 0x19AB⟩,
     ⟨nat_lit 0x19B0, nat_lit 0x19C9⟩, ⟨nat_lit 0x1A00, nat_lit 0x1A1B⟩,
     ⟨nat_lit 0x1A20, nat_lit 0x1A5E⟩, ⟨nat_lit 0x1A61, nat_lit 0x1A74⟩,
     ⟨nat_lit 0x1AA7, nat_lit 0x1AA7⟩, ⟨nat_lit 0x1ABF, nat_lit 0x1AC0⟩,
     ⟨nat_lit 0x1ACC, nat_lit 0x1ACE⟩, ⟨nat_lit 0x1B00, nat_lit 0x1B33⟩,
     ⟨nat_lit 0x1B35, nat_lit 0x1B43⟩, ⟨nat_lit 0x1B45, nat_lit 0x1B4C⟩,
     ⟨nat_lit 0x1B80, nat_lit 0x1BA9⟩, ⟨nat_lit 0x1BAC, nat_lit 0x1BAF⟩,
     ⟨nat_lit 0x1BBA, nat_lit 0x1BE5⟩, ⟨nat_lit 0x1BE7, nat_lit 0x1BF1⟩,
     ⟨nat_lit 0x1C00, nat_lit 0x1C36⟩, ⟨nat_lit 0x1C4D, nat_lit 0x1C4F⟩,
     ⟨nat_lit 0x1C5A, nat_lit 0x1C7D⟩, ⟨nat_lit 0x1C80, nat_lit 0x1C8A⟩,
     ⟨nat_lit 0x1C90, nat_lit 0x1CBA⟩, ⟨nat_lit 0x1CBD, nat_lit 0x1CBF⟩,
     ⟨nat_lit 0x1CE9, nat_lit 0x1CEC⟩, ⟨nat_lit 0x1CEE, nat_lit 0x1CF3⟩,
     ⟨nat_lit 0x1CF5, nat_lit 0x1CF6⟩, ⟨nat_lit 0x1CFA, nat_lit 0x1CFA⟩,
     ⟨nat_lit 0x1D00, nat_lit 0x1DBF⟩, ⟨nat_lit 0x1DD3, nat_lit 0x1DF4⟩,
     ⟨nat_lit 0x1E00, nat_lit 0x1F15⟩, ⟨nat_lit 0x1F18, nat_lit 0x1F1D⟩,
     ⟨nat_lit 0x1F20, nat_lit 0x1F45⟩, ⟨nat_lit 0x1F48, nat_lit 0x1F4D⟩,
     ⟨nat_lit 0x1F50, nat_lit 0x1F57⟩, ⟨nat_lit 0x1F59, nat_lit 0x1F59⟩,
     ⟨nat_lit 0x1F5B, nat_lit 0x1F5B⟩, ⟨nat_lit 0x1F5D, nat_lit 0x1F5D⟩,
     ⟨nat_lit 0x1F5F, nat_lit 0x1F7D⟩, ⟨nat_lit 0x1F80, nat_lit 0x1FB4⟩,
     ⟨nat_lit 0x1FB6, nat_lit 0x1FBC⟩, ⟨nat_lit 0x1FBE, nat_lit 0x1FBE⟩,
     ⟨nat_lit 0x1FC2, nat_lit 0x1FC4⟩, ⟨nat_lit 0x1FC6, nat_lit 0x1FCC⟩,
     ⟨nat_lit 0x1FD0, nat_lit 0x1FD3⟩, ⟨nat_lit 0x1FD6, nat_lit 0x1FDB⟩,
     ⟨nat_lit 0x1FE0, nat_lit 0x1FEC⟩, ⟨nat_lit 0x1FF2, nat_lit 0x1FF4⟩,
     ⟨nat_lit 0x1FF6, nat_lit 0x1FFC⟩, ⟨nat_lit 0x2071, nat_lit 0x2071⟩,
     ⟨nat_lit 0x207F, nat_lit 0x207F⟩, ⟨nat_lit 0x2090, nat_lit 0x209C⟩,
     ⟨nat_lit 0x2102, nat_lit 0x2102⟩, ⟨nat_lit 0x2107, nat_lit 0x2107⟩,
     ⟨nat_lit 0x210A, nat_lit 0x2113⟩, ⟨nat_lit 0x2115, nat_lit 0x2115⟩,
     ⟨nat_lit 0x2119, nat_lit 0x211D⟩, ⟨nat_lit 0x2124, nat_lit 0x2124⟩,
     ⟨nat_lit 0x2126, nat_lit 0x2126⟩, ⟨nat_lit 0x2128, nat_lit 0x2128⟩,
     ⟨nat_lit 0x212A, nat_lit 0x212D⟩, ⟨nat_lit 0x212F, nat_lit 0x2139⟩,
     ⟨nat_lit 0x213C, nat_lit 0x213F⟩, ⟨nat_lit 0x2145, nat_lit 0x2149⟩,
     ⟨nat_lit 0x214E, nat_lit 0x214E⟩, ⟨nat_lit 0x2160, nat_lit 0x2188⟩,
     ⟨nat_lit 0x24B6, nat_lit 0x24E9⟩, ⟨nat_lit 0x2C00, nat_lit 0x2CE4⟩,
     ⟨nat_lit 0x2CEB, nat_lit 0x2CEE⟩, ⟨nat_lit 0x2CF2, nat_lit 0x2CF3⟩,
     ⟨nat_lit 0x2D00, nat_lit 0x2D25⟩, ⟨nat_lit 0x2D27, nat_lit 0x2D27⟩,
     ⟨nat_lit 0x2D2D, nat_lit 0x2D2D⟩, ⟨nat_lit 0x2D30, nat_lit 0x2D67⟩,
     ⟨nat_lit 0x2D6F, nat_lit 0x2D6F⟩, ⟨nat_lit 0x2D80, nat_lit 0x2D96⟩,
     ⟨nat_lit 0x2DA0, nat_lit 0x2DA6⟩, ⟨nat_lit 0x2DA8, nat_lit 0x2DAE⟩,
     ⟨nat_lit 0x2DB0, nat_lit 0x2DB6⟩, ⟨nat_lit 0x2DB8, nat_lit 0x2DBE⟩,
     ⟨nat_lit 0x2DC0, nat_lit 0x2DC6⟩, ⟨nat_lit 0x2DC8, nat_lit 0x2DCE⟩,
     ⟨nat_lit 0x2DD0, nat_lit 0x2DD6⟩, ⟨nat_lit 0x2DD8, nat_lit 0x2DDE⟩,
     ⟨nat_lit 0x2DE0, nat_lit 0x2DFF⟩, ⟨nat_lit 0x2E2F, nat_lit 0x2E2F⟩,
     ⟨nat_lit 0x3005, nat_lit 0x3007⟩, ⟨nat_lit 0x3021, nat_lit 0x3029⟩,
     ⟨nat_lit 0x3031, nat_lit 0x3035⟩, ⟨nat_lit 0x3038, nat_lit 0x303C⟩,
     ⟨nat_lit 0x3041, nat_lit 0x3096⟩, ⟨nat_lit 0x309D, nat_lit 0x309F⟩,
     ⟨nat_lit 0x30A1, nat_lit 0x30FA⟩, ⟨nat_lit 0x30FC, nat_lit 0x30FF⟩,
     ⟨nat_lit 0x3105, nat_lit 0x312F⟩, ⟨nat_lit 0x3131, nat_lit 0x318E⟩,
     ⟨nat_lit 0x31A0, nat_lit 0x31BF⟩, ⟨nat_lit 0x31F0, nat_lit 0x31FF⟩,
     ⟨nat_lit 0x3400, nat_lit 0x4DBF⟩, ⟨nat_lit 0x4E00, nat_lit 0xA48C⟩,
     ⟨nat_lit 0xA4D0, nat_lit 0xA4FD⟩, ⟨nat_lit 0xA500, nat_lit 0xA60C⟩,
     ⟨nat_lit 0xA610, nat_lit 0xA61F⟩, ⟨nat_lit 0xA62A, nat_lit 0xA62B⟩,
     ⟨nat_lit 0xA640, nat_lit 0xA66E⟩, ⟨nat_lit 0xA674, nat_lit 0xA67B⟩,
     ⟨nat_lit 0xA67F, nat_lit 0xA6EF⟩, ⟨nat_lit 0xA717, nat_lit 0xA71F⟩,
     ⟨nat_lit 0xA722, nat_lit 0xA788⟩, ⟨nat_lit 0xA78B, nat_lit 0xA7CD⟩,
     ⟨nat_lit 0xA7D0, nat_lit 0xA7D1⟩, ⟨nat_lit 0xA7D3, nat_lit 0xA7D3⟩,
     ⟨nat_lit 0xA7D5, nat_lit 0xA7DC⟩, ⟨nat_lit 0xA7F2, nat_lit 0xA805⟩,
     ⟨nat_lit 0xA807, nat_lit 0xA827⟩, ⟨nat_lit 0xA840, nat_lit 0xA873⟩,
     ⟨nat_lit 0xA880, nat_lit 0xA8C3⟩, ⟨nat_lit 0xA8C5, nat_lit 0xA8C5⟩,
     ⟨nat_lit 0xA8F2, nat_lit 0xA8F7⟩, ⟨nat_lit 0xA8FB, nat_lit 0xA8FB⟩,
     ⟨nat_lit 0xA8FD, nat_lit 0xA8FF⟩, ⟨nat_lit 0xA90A, nat_lit 0xA92A⟩,
     ⟨nat_lit 0xA930, nat_lit 0xA952⟩, ⟨nat_lit 0xA960, nat_lit 0xA97C⟩,
     ⟨nat_lit 0xA980, nat_lit 0xA9B2⟩, ⟨nat_lit 0xA9B4, nat_lit 0xA9BF⟩,
     ⟨nat_lit 0xA9CF, nat_lit 0xA9CF⟩, ⟨nat_lit 0xA9E0, nat_lit 0xA9EF⟩,
     ⟨nat_lit 0xA9FA, nat_lit 0xA9FE⟩, ⟨nat_lit 0xAA00, nat_lit 0xAA36⟩,
     ⟨nat_lit 0xAA40, nat_lit 0xAA4D⟩, ⟨nat_lit 0xAA60, nat_lit 0xAA76⟩,
     ⟨nat_lit 0xAA7A, nat_lit 0xAABE⟩, ⟨nat_lit 0xAAC0, nat_lit 0xAAC0⟩,
     ⟨nat_lit 0xAAC2, nat_lit 0xAAC2⟩, ⟨nat_lit 0xAADB, nat_lit 0xAADD⟩,
     ⟨nat_lit 0xAAE0, nat_lit 0xAAEF⟩, ⟨nat_lit 0xAAF2, nat_lit 0xAAF5⟩,
     ⟨nat_lit 0xAB01, nat_lit 0xAB06⟩, ⟨nat_lit 0xAB09, nat_lit 0xAB0E⟩,
     ⟨nat_lit 0xAB11, nat_lit 0xAB16⟩, ⟨nat_lit 0xAB20, nat_lit 0xAB26⟩,
     ⟨nat_lit 0xAB28, nat_lit 0xAB2E⟩, ⟨nat_lit 0xAB30, nat_lit 0xAB5A⟩,
     ⟨nat_lit 0xAB5C, nat_lit 0xAB69⟩, ⟨nat_lit 0xAB70, nat_lit 0xABEA⟩,
     ⟨nat_lit 0xAC00, nat_lit 0xD7A3⟩, ⟨nat_lit 0xD7B0, nat_lit 0xD7C6⟩,
     ⟨nat_lit 0xD7CB, nat_lit 0xD7FB⟩, ⟨nat_lit 0xF900, nat_lit 0xFA6D⟩,
     ⟨nat_lit 0xFA70, nat_lit 0xFAD9⟩, ⟨nat_lit 0xFB00, nat_lit 0xFB06⟩,
     ⟨nat_lit 0xFB13, nat_lit 0xFB17⟩, ⟨nat_lit 0xFB1D, nat_lit 0xFB28⟩,
     ⟨nat_lit 0xFB2A, nat_lit 0xFB36⟩, ⟨nat_lit 0xFB38, nat_lit 0xFB3C⟩,
     ⟨nat_lit 0xFB3E, nat_lit 0xFB3E⟩, ⟨nat_lit 0xFB40, nat_lit 0xFB41⟩,
     ⟨nat_lit 0xFB43, nat_lit 0xFB44⟩, ⟨nat_lit 0xFB46, nat_lit 0xFBB1⟩,
     ⟨nat_lit 0xFBD3, nat_lit 0xFD3D⟩, ⟨nat_lit 0xFD50, nat_lit 0xFD8F⟩,
     ⟨nat_lit 0xFD92, nat_lit 0xFDC7⟩, ⟨nat_lit 0xFDF0, nat_lit 0xFDFB⟩,
     ⟨nat_lit 0xFE70, nat_lit 0xFE74⟩, ⟨nat_lit 0xFE76, nat_lit 0xFEFC⟩,
     ⟨nat_lit 0xFF21, nat_lit 0xFF3A⟩, ⟨nat_lit 0xFF41, nat_lit 0xFF5A⟩,
     ⟨nat_lit 0xFF66, nat_lit 0xFFBE⟩, ⟨nat_lit 0xFFC2, nat_lit 0xFFC7⟩,
     ⟨nat_lit 0xFFCA, nat_lit 0xFFCF⟩, ⟨nat_lit 0xFFD2, nat_lit 0xFFD7⟩,
     ⟨nat_lit 0xFFDA, nat_lit 0xFFDC⟩, ⟨nat_lit 0x10000, nat_lit 0x1000B⟩,
     ⟨nat_lit 0x1000D, nat_lit 0x10026⟩, ⟨nat_lit 0x10028, nat_lit 0x1003A⟩,
     ⟨nat_lit 0x1003C, nat_lit 0x1003D⟩, ⟨nat_lit 0x1003F, nat_lit 0x1004D⟩,
     ⟨nat_lit 0x10050, nat_lit 0x1005D⟩, ⟨nat_lit 0x10080, nat_lit 0x100FA⟩,
     ⟨nat_lit 0x10140, nat_lit 0x10174⟩, ⟨nat_lit 0x10280, nat_lit 0x1029C⟩,
     ⟨nat_lit 0x102A0, nat_lit 0x102D0⟩, ⟨nat_lit 0x10300, nat_lit 0x1031F⟩,
     ⟨nat_lit 0x1032D, nat_lit 0x1034A⟩, ⟨nat_lit 0x10350, nat_lit 0x1037A⟩,
     ⟨nat_lit 0x10380, nat_lit 0x1039D⟩, ⟨nat_lit 0x103A0, nat_lit 0x103C3⟩,
     ⟨nat_lit 0x103C8, nat_lit 0x103CF⟩, ⟨nat_lit 0x103D1, nat_lit 0x103D5⟩,
     ⟨nat_lit 0x10400, nat_lit 0x1049D⟩, ⟨nat_lit 0x104B0, nat_lit 0x104D3⟩,
     ⟨nat_lit 0x104D8, nat_lit 0x104FB⟩, ⟨nat_lit 0x10500, nat_lit 0x10527⟩,
     ⟨nat_lit 0x10530, nat_lit 0x10563⟩, ⟨nat_lit 0x10570, nat_lit 0x1057A⟩,
     ⟨nat_lit 0x1057C, nat_lit 0x1058A⟩, ⟨nat_lit 0x1058C, nat_lit 0x10592⟩,
     ⟨nat_lit 0x10594, nat_lit 0x10595⟩, ⟨nat_lit 0x10597, nat_lit 0x105A1⟩,
     ⟨nat_lit 0x105A3, nat_lit 0x105B1⟩, ⟨nat_lit 0x105B3, nat_lit 0x105B9⟩,
     ⟨nat_lit 0x105BB, nat_lit 0x105BC⟩, ⟨nat_lit 0x105C0, nat_lit 0x105F3⟩,
     ⟨nat_lit 0x10600, nat_lit 0x10736⟩, ⟨nat_lit 0x10740, nat_lit 0x10755⟩,
     ⟨nat_lit 0x10760, nat_lit 0x10767⟩, ⟨nat_lit 0x10780, nat_lit 0x10785⟩,
     ⟨nat_lit 0x10787, nat_lit 0x107B0⟩, ⟨nat_lit 0x107B2, nat_lit 0x107BA⟩,
     ⟨nat_lit 0x10800, nat_lit 0x10805⟩, ⟨nat_lit 0x10808, nat_lit 0x10808⟩,
     ⟨nat_lit 0x1080A, nat_lit 0x10835⟩, ⟨nat_lit 0x10837, nat_lit 0x10838⟩,
     ⟨nat_lit 0x1083C, nat_lit 0x1083C⟩, ⟨nat_lit 0x1083F, nat_lit 0x10855⟩,
     ⟨nat_lit 0x10860, nat_lit 0x10876⟩, ⟨nat_lit 0x10880, nat_lit 0x1089E⟩,
     ⟨nat_lit 0x108E0, nat_lit 0x108F2⟩, ⟨nat_lit 0x108F4, nat_lit 0x108F5⟩,
     ⟨nat_lit 0x10900, nat_lit 0x10915⟩, ⟨nat_lit 0x10920, nat_lit 0x10939⟩,
     ⟨nat_lit 0x10980, nat_lit 0x109B7⟩, ⟨nat_lit 0x109BE, nat_lit 0x109BF⟩,
     ⟨nat_lit 0x10A00, nat_lit 0x10A03⟩, ⟨nat_lit 0x10A05, nat_lit 0x10A06⟩,
     ⟨nat_lit 0x10A0C, nat_lit 0x10A13⟩, ⟨nat_lit 0x10A15, nat_lit 0x10A17⟩,
     ⟨nat_lit 0x10A19, nat_lit 0x10A35⟩, ⟨nat_lit 0x10A60, nat_lit 0x10A7C⟩,
     ⟨nat_lit 0x10A80, nat_lit 0x10A9C⟩, ⟨nat_lit 0x10AC0, nat_lit 0x10AC7⟩,
     ⟨nat_lit 0x10AC9, nat_lit 0x10AE4⟩, ⟨nat_lit 0x10B00, nat_lit 0x10B35⟩,
     ⟨nat_lit 0x10B40, nat_lit 0x10B55⟩, ⟨nat_lit 0x10B60, nat_lit 0x10B72⟩,
     ⟨nat_lit 0x10B80, nat_lit 0x10B91⟩, ⟨nat_lit 0x10C00, nat_lit 0x10C48⟩,
     ⟨nat_lit 0x10C80, nat_lit 0x10CB2⟩, ⟨nat_lit 0x10CC0, nat_lit 0x10CF2⟩,
     ⟨nat_lit 0x10D00, nat_lit 0x10D27⟩, ⟨nat_lit 0x10D4A, nat_lit 0x10D65⟩,
     ⟨nat_lit 0x10D69, nat_lit 0x10D69⟩, ⟨nat_lit 0x10D6F, nat_lit 0x10D85⟩,
     ⟨nat_lit 0x10E80, nat_lit 0x10EA9⟩, ⟨nat_lit 0x10EAB, nat_lit 0x10EAC⟩,
     ⟨nat_lit 0x10EB0, nat_lit 0x10EB1⟩, ⟨nat_lit 0x10EC2, nat_lit 0x10EC4⟩,
     ⟨nat_lit 0x10EFC, nat_lit 0x10EFC⟩, ⟨nat_lit 0x10F00, nat_lit 0x10F1C⟩,
     ⟨nat_lit 0x10F27, nat_lit 0x10F27⟩, ⟨nat_lit 0x10F30, nat_lit 0x10F45⟩,
     ⟨nat_lit 0x10F70, nat_lit 0x10F81⟩, ⟨nat_lit 0x10FB0, nat_lit 0x10FC4⟩,
     ⟨nat_lit 0x10FE0, nat_lit 0x10FF6⟩, ⟨nat_lit 0x11000, nat_lit 0x11045⟩,
     ⟨nat_lit 0x11071, nat_lit 0x11075⟩, ⟨nat_lit 0x11080, nat_lit 0x110B8⟩,
     ⟨nat_lit 0x110C2, nat_lit 0x110C2⟩, ⟨nat_lit 0x110D0, nat_lit 0x110E8⟩,
     ⟨nat_lit 0x11100, nat_lit 0x11132⟩, ⟨nat_lit 0x11144, nat_lit 0x11147⟩,
     ⟨nat_lit 0x11150, nat_lit 0x11172⟩, ⟨nat_lit 0x11176, nat_lit 0x11176⟩,
     ⟨nat_lit 0x11180, nat_lit 0x111BF⟩, ⟨nat_lit 0x111C1, nat_lit 0x111C4⟩,
     ⟨nat_lit 0x111CE, nat_lit 0x111CF⟩, ⟨nat_lit 0x111DA, nat_lit 0x111DA⟩,
     ⟨nat_lit 0x111DC, nat_lit 0x111DC⟩, ⟨nat_lit 0x11200, nat_lit 0x11211⟩,
     ⟨nat_lit 0x11213, nat_lit 0x11234⟩, ⟨nat_lit 0x11237, nat_lit 0x11237⟩,
     ⟨nat_lit 0x1123E, nat_lit 0x11241⟩, ⟨nat_lit 0x11280, nat_lit 0x11286⟩,
     ⟨nat_lit 0x11288, nat_lit 0x11288⟩, ⟨nat_lit 0x1128A, nat_lit 0x1128D⟩,
     ⟨nat_lit 0x1128F, nat_lit 0x1129D⟩, ⟨nat_lit 0x1129F, nat_lit 0x112A8⟩,
     ⟨nat_lit 0x112B0, nat_lit 0x112E8⟩, ⟨nat_lit 0x11300, nat_lit 0x11303⟩,
     ⟨nat_lit 0x11305, nat_lit 0x1130C⟩, ⟨nat_lit 0x1130F, nat_lit 0x11310⟩,
     ⟨nat_lit 0x11313, nat_lit 0x11328⟩, ⟨nat_lit 0x1132A, nat_lit 0x11330⟩,
     ⟨nat_lit 0x11332, nat_lit 0x11333⟩, ⟨nat_lit 0x11335, nat_lit 0x11339⟩,
     ⟨nat_lit 0x1133D, nat_lit 0x11344⟩, ⟨nat_lit 0x11347, nat_lit 0x11348⟩,
     ⟨nat_lit 0x1134B, nat_lit 0x1134C⟩, ⟨nat_lit 0x11350, nat_lit 0x11350⟩,
     ⟨nat_lit 0x11357, nat_lit 0x11357⟩, ⟨nat_lit 0x1135D, nat_lit 0x11363⟩,
     ⟨nat_lit 0x11380, nat_lit 0x11389⟩, ⟨nat_lit 0x1138B, nat_lit 0x1138B⟩,
     ⟨nat_lit 0x1138E, nat_lit 0x1138E⟩, ⟨nat_lit 0x11390, nat_lit 0x113B5⟩,
     ⟨nat_lit 0x113B7, nat_lit 0x113C0⟩, ⟨nat_lit 0x113C2, nat_lit 0x113C2⟩,
     ⟨nat_lit 0x113C5, nat_lit 0x113C5⟩, ⟨nat_lit 0x113C7, nat_lit 0x113CA⟩,
     ⟨nat_lit 0x113CC, nat_lit 0x113CD⟩, ⟨nat_lit 0x113D1, nat_lit 0x113D1⟩,
     ⟨nat_lit 0x113D3, nat_lit 0x113D3⟩, ⟨nat_lit 0x11400, nat_lit 0x11441⟩,
     ⟨nat_lit 0x11443, nat_lit 0x11445⟩, ⟨nat_lit 0x11447, nat_lit 0x1144A⟩,
     ⟨nat_lit 0x1145F, nat_lit 0x11461⟩, ⟨nat_lit 0x11480, nat_lit 0x114C1⟩,
     ⟨nat_lit 0x114C4, nat_lit 0x114C5⟩, ⟨nat_lit 0x114C7, nat_lit 0x114C7⟩,
     ⟨nat_lit 0x11580, nat_lit 0x115B5⟩, ⟨nat_lit 0x115B8, nat_lit 0x115BE⟩,
     ⟨nat_lit 0x115D8, nat_lit 0x115DD⟩, ⟨nat_lit 0x11600, nat_lit 0x1163E⟩,
     ⟨nat_lit 0x11640, nat_lit 0x11640⟩, ⟨nat_lit 0x11644, nat_lit 0x11644⟩,
     ⟨nat_lit 0x11680, nat_lit 0x116B5⟩, ⟨nat_lit 0x116B8, nat_lit 0x116B8⟩,
     ⟨nat_lit 0x11700, nat_lit 0x1171A⟩, ⟨nat_lit 0x1171D, nat_lit 0x1172A⟩,
     ⟨nat_lit 0x11740, nat_lit 0x11746⟩, ⟨nat_lit 0x11800, nat_lit 0x11838⟩,
     ⟨nat_lit 0x118A0, nat_lit 0x118DF⟩, ⟨nat_lit 0x118FF, nat_lit 0x11906⟩,
     ⟨nat_lit 0x11909, nat_lit 0x11909⟩, ⟨nat_lit 0x1190C, nat_lit 0x11913⟩,
     ⟨nat_lit 0x11915, nat_lit 0x11916⟩, ⟨nat_lit 0x11918, nat_lit 0x11935⟩,
     ⟨nat_lit 0x11937, nat_lit 0x11938⟩, ⟨nat_lit 0x1193B, nat_lit 0x1193C⟩,
     ⟨nat_lit 0x1193F, nat_lit 0x11942⟩, ⟨nat_lit 0x119A0, nat_lit 0x119A7⟩,
     ⟨nat_lit 0x119AA, nat_lit 0x119D7⟩, ⟨nat_lit 0x119DA, nat_lit 0x119DF⟩,
     ⟨nat_lit 0x119E1, nat_lit 0x119E1⟩, ⟨nat_lit 0x119E3, nat_lit 0x119E4⟩,
     ⟨nat_lit 0x11A00, nat_lit 0x11A32⟩, ⟨nat_lit 0x11A35, nat_lit 0x11A3E⟩,
     ⟨nat_lit 0x11A50, nat_lit 0x11A97⟩, ⟨nat_lit 0x11A9D, nat_lit 0x11A9D⟩,
     ⟨nat_lit 0x11AB0, nat_lit 0x11AF8⟩, ⟨nat_lit 0x11BC0, nat_lit 0x11BE0⟩,
     ⟨nat_lit 0x11C00, nat_lit 0x11C08⟩, ⟨nat_lit 0x11C0A, nat_lit 0x11C36⟩,
     ⟨nat_lit 0x11C38, nat_lit 0x11C3E⟩, ⟨nat_lit 0x11C40, nat_lit 0x11C40⟩,
     ⟨nat_lit 0x11C72, nat_lit 0x11C8F⟩, ⟨nat_lit 0x11C92, nat_lit 0x11CA7⟩,
     ⟨nat_lit 0x11CA9, nat_lit 0x11CB6⟩, ⟨nat_lit 0x11D00, nat_lit 0x11D06⟩,
     ⟨nat_lit 0x11D08, nat_lit 0x11D09⟩, ⟨nat_lit 0x11D0B, nat_lit 0x11D36⟩,
     ⟨nat_lit 0x11D3A, nat_lit 0x11D3A⟩, ⟨nat_lit 0x11D3C, nat_lit 0x11D3D⟩,
     ⟨nat_lit 0x11D3F, nat_lit 0x11D41⟩, ⟨nat_lit 0x11D43, nat_lit 0x11D43⟩,
     ⟨nat_lit 0x11D46, nat_lit 0x11D47⟩, ⟨nat_lit 0x11D60, nat_lit 0x11D65⟩,
     ⟨nat_lit 0x11D67, nat_lit 0x11D68⟩, ⟨nat_lit 0x11D6A, nat_lit 0x11D8E⟩,
     ⟨nat_lit 0x11D90, nat_lit 0x11D91⟩, ⟨nat_lit 0x11D93, nat_lit 0x11D96⟩,
     ⟨nat_lit 0x11D98, nat_lit 0x11D98⟩, ⟨nat_lit 0x11EE0, nat_lit 0x11EF6⟩,
     ⟨nat_lit 0x11F00, nat_lit 0x11F10⟩, ⟨nat_lit 0x11F12, nat_lit 0x11F3A⟩,
     ⟨nat_lit 0x11F3E, nat_lit 0x11F40⟩, ⟨nat_lit 0x11FB0, nat_lit 0x11FB0⟩,
     ⟨nat_lit 0x12000, nat_lit 0x12399⟩, ⟨nat_lit 0x12400, nat_lit 0x1246E⟩,
     ⟨nat_lit 0x12480, nat_lit 0x12543⟩, ⟨nat_lit 0x12F90, nat_lit 0x12FF0⟩,
     ⟨nat_lit 0x13000, nat_lit 0x1342F⟩, ⟨nat_lit 0x13441, nat_lit 0x13446⟩,
     ⟨nat_lit 0x13460, nat_lit 0x143FA⟩, ⟨nat_lit 0x14400, nat_lit 0x14646⟩,
     ⟨nat_lit 0x16100, nat_lit 0x1612E⟩, ⟨nat_lit 0x16800, nat_lit 0x16A38⟩,
     ⟨nat_lit 0x16A40, nat_lit 0x16A5E⟩, ⟨nat_lit 0x16A70, nat_lit 0x16ABE⟩,
     ⟨nat_lit 0x16AD0, nat_lit 0x16AED⟩, ⟨nat_lit 0x16B00, nat_lit 0x16B2F⟩,
     ⟨nat_lit 0x16B40, nat_lit 0x16B43⟩, ⟨nat_lit 0x16B63, nat_lit 0x16B77⟩,
     ⟨nat_lit 0x16B7D, nat_lit 0x16B8F⟩, ⟨nat_lit 0x16D40, nat_lit 0x16D6C⟩,
     ⟨nat_lit 0x16E40, nat_lit 0x16E7F⟩, ⟨nat_lit 0x16F00, nat_lit 0x16F4A⟩,
     ⟨nat_lit 0x16F4F, nat_lit 0x16F87⟩, ⟨nat_lit 0x16F8F, nat_lit 0x16F9F⟩,
     ⟨nat_lit 0x16FE0, nat_lit 0x16FE1⟩, ⟨nat_lit 0x16FE3, nat_lit 0x16FE3⟩,
     ⟨nat_lit 0x16FF0, nat_lit 0x16FF1⟩, ⟨nat_lit 0x17000, nat_lit 0x187F7⟩,
     ⟨nat_lit 0x18800, nat_lit 0x18CD5⟩, ⟨nat_lit 0x18CFF, nat_lit 0x18D08⟩,
     ⟨nat_lit 0x1AFF0, nat_lit 0x1AFF3⟩, ⟨nat_lit 0x1AFF5, nat_lit 0x1AFFB⟩,
     ⟨nat_lit 0x1AFFD, nat_lit 0x1AFFE⟩, ⟨nat_lit 0x1B000, nat_lit 0x1B122⟩,
     ⟨nat_lit 0x1B132, nat_lit 0x1B132⟩, ⟨nat_lit 0x1B150, nat_lit 0x1B152⟩,
     ⟨nat_lit 0x1B155, nat_lit 0x1B155⟩, ⟨nat_lit 0x1B164, nat_lit 0x1B167⟩,
     ⟨nat_lit 0x1B170, nat_lit 0x1B2FB⟩, ⟨nat_lit 0x1BC00, nat_lit 0x1BC6A⟩,
     ⟨nat_lit 0x1BC70, nat_lit 0x1BC7C⟩, ⟨nat_lit 0x1BC80, nat_lit 0x1BC88⟩,
     ⟨nat_lit 0x1BC90, nat_lit 0x1BC99⟩, ⟨nat_lit 0x1BC9E, nat_lit 0x1BC9E⟩,
     ⟨nat_lit 0x1D400, nat_lit 0x1D454⟩, ⟨nat_lit 0x1D456, nat_lit 0x1D49C⟩,
     ⟨nat_lit 0x1D49E, nat_lit 0x1D49F⟩, ⟨nat_lit 0x1D4A2, nat_lit 0x1D4A2⟩,
     ⟨nat_lit 0x1D4A5, nat_lit 0x1D4A6⟩, ⟨nat_lit 0x1D4A9, nat_lit 0x1D4AC⟩,
     ⟨nat_lit 0x1D4AE, nat_lit 0x1D4B9⟩, ⟨nat_lit 0x1D4BB, nat_lit 0x1D4BB⟩,
     ⟨nat_lit 0x1D4BD, nat_lit 0x1D4C3⟩, ⟨nat_lit 0x1D4C5, nat_lit 0x1D505⟩,
     ⟨nat_lit 0x1D507, nat_lit 0x1D50A⟩, ⟨nat_lit 0x1D50D, nat_lit 0x1D514⟩,
     ⟨nat_lit 0x1D516, nat_lit 0x1D51C⟩, ⟨nat_lit 0x1D51E, nat_lit 0x1D539⟩,
     ⟨nat_lit 0x1D53B, nat_lit 0x1D53E⟩, ⟨nat_lit 0x1D540, nat_lit 0x1D544⟩,
     ⟨nat_lit 0x1D546, nat_lit 0x1D546⟩, ⟨nat_lit 0x1D54A, nat_lit 0x1D550⟩,
     ⟨nat_lit 0x1D552, nat_lit 0x1D6A5⟩, ⟨nat_lit 0x1D6A8, nat_lit 0x1D6C0⟩,
     ⟨nat_lit 0x1D6C2, nat_lit 0x1D6DA⟩, ⟨nat_lit 0x1D6DC, nat_lit 0x1D6FA⟩,
     ⟨nat_lit 0x1D6FC, nat_lit 0x1D714⟩, ⟨nat_lit 0x1D716, nat_lit 0x1D734⟩,
     ⟨nat_lit 0x1D736, nat_lit 0x1D74E⟩, ⟨nat_lit 0x1D750, nat_lit 0x1D76E⟩,
     ⟨nat_lit 0x1D770, nat_lit 0x1D788⟩, ⟨nat_lit 0x1D78A, nat_lit 0x1D7A8⟩,
     ⟨nat_lit 0x1D7AA, nat_lit 0x1D7C2⟩, ⟨nat_lit 0x1D7C4, nat_lit 0x1D7CB⟩,
     ⟨nat_lit 0x1DF00, nat_lit 0x1DF1E⟩, ⟨nat_lit 0x1DF25, nat_lit 0x1DF2A⟩,
     ⟨nat_lit 0x1E000, nat_lit 0x1E006⟩, ⟨nat_lit 0x1E008, nat_lit 0x1E018⟩,
     ⟨nat_lit 0x1E01B, nat_lit 0x1E021⟩, ⟨nat_lit 0x1E023, nat_lit 0x1E024⟩,
     ⟨nat_lit 0x1E026, nat_lit 0x1E02A⟩, ⟨nat_lit 0x1E030, nat_lit 0x1E06D⟩,
     ⟨nat_lit 0x1E08F, nat_lit 0x1E08F⟩, ⟨nat_lit 0x1E100, nat_lit 0x1E12C⟩,
     ⟨nat_lit 0x1E137, nat_lit 0x1E13D⟩, ⟨nat_lit 0x1E14E, nat_lit 0x1E14E⟩,
     ⟨nat_lit 0x1E290, nat_lit 0x1E2AD⟩, ⟨nat_lit 0x1E2C0, nat_lit 0x1E2EB⟩,
     ⟨nat_lit 0x1E4D0, nat_lit 0x1E4EB⟩, ⟨nat_lit 0x1E5D0, nat_lit 0x1E5ED⟩,
     ⟨nat_lit 0x1E5F0, nat_lit 0x1E5F0⟩, ⟨nat_lit 0x1E7E0, nat_lit 0x1E7E6⟩,
     ⟨nat_lit 0x1E7E8, nat_lit 0x1E7EB⟩, ⟨nat_lit 0x1E7ED, nat_lit 0x1E7EE⟩,
     ⟨nat_lit 0x1E7F0, nat_lit 0x1E7FE⟩, ⟨nat_lit 0x1E800, nat_lit 0x1E8C4⟩,
     ⟨nat_lit 0x1E900, nat_lit 0x1E943⟩, ⟨nat_lit 0x1E947, nat_lit 0x1E947⟩,
     ⟨nat_lit 0x1E94B, nat_lit 0x1E94B⟩, ⟨nat_lit 0x1EE00, nat_lit 0x1EE03⟩,
     ⟨nat_lit 0x1EE05, nat_lit 0x1EE1F⟩, ⟨nat_lit 0x1EE21, nat_lit 0x1EE22⟩,
     ⟨nat_lit 0x1EE24, nat_lit 0x1EE24⟩, ⟨nat_lit 0x1EE27, nat_lit 0x1EE27⟩,
     ⟨nat_lit 0x1EE29, nat_lit 0x1EE32⟩, ⟨nat_lit 0x1EE34, nat_lit 0x1EE37⟩,
     ⟨nat_lit 0x1EE39, nat_lit 0x1EE39⟩, ⟨nat_lit 0x1EE3B, nat_lit 0x1EE3B⟩,
     ⟨nat_lit 0x1EE42, nat_lit 0x1EE42⟩, ⟨nat_lit 0x1EE47, nat_lit 0x1EE47⟩,
     ⟨nat_lit 0x1EE49, nat_lit 0x1EE49⟩, ⟨nat_lit 0x1EE4B, nat_lit 0x1EE4B⟩,
     ⟨nat_lit 0x1EE4D, nat_lit 0x1EE4F⟩, ⟨nat_lit 0x1EE51, nat_lit 0x1EE52⟩,
     ⟨nat_lit 0x1EE54, nat_lit 0x1EE54⟩, ⟨nat_lit 0x1EE57, nat_lit 0x1EE57⟩,
     ⟨nat_lit 0x1EE59, nat_lit 0x1EE59⟩, ⟨nat_lit 0x1EE5B, nat_lit 0x1EE5B⟩,
     ⟨nat_lit 0x1EE5D, nat_lit 0x1EE5D⟩, ⟨nat_lit 0x1EE5F, nat_lit 0x1EE5F⟩,
     ⟨nat_lit 0x1EE61, nat_lit 0x1EE62⟩, ⟨nat_lit 0x1EE64, nat_lit 0x1EE64⟩,
     ⟨nat_lit 0x1EE67, nat_lit 0x1EE6A⟩, ⟨nat_lit 0x1EE6C, nat_lit 0x1EE72⟩,
     ⟨nat_lit 0x1EE74, nat_lit 0x1EE77⟩, ⟨nat_lit 0x1EE79, nat_lit 0x1EE7C⟩,
     ⟨nat_lit 0x1EE7E, nat_lit 0x1EE7E⟩, ⟨nat_lit 0x1EE80, nat_lit 0x1EE89⟩,
     ⟨nat_lit 0x1EE8B, nat_lit 0x1EE9B⟩, ⟨nat_lit 0x1EEA1, nat_lit 0x1EEA3⟩,
     ⟨nat_lit 0x1EEA5, nat_lit 0x1EEA9⟩, ⟨nat_lit 0x1EEAB, nat_lit 0x1EEBB⟩,
     ⟨nat_lit 0x1F130, nat_lit 0x1F149⟩, ⟨nat_lit 0x1F150, nat_lit 0x1F169⟩,
     ⟨nat_lit 0x1F170, nat_lit 0x1F189⟩, ⟨nat_lit 0x20000, nat_lit 0x2A6DF⟩,
     ⟨nat_lit 0x2A700, nat_lit 0x2B739⟩, ⟨nat_lit 0x2B740, nat_lit 0x2B81D⟩,
     ⟨nat_lit 0x2B820, nat_lit 0x2CEA1⟩, ⟨nat_lit 0x2CEB0, nat_lit 0x2EBE0⟩,
     ⟨nat_lit 0x2EBF0, nat_lit 0x2EE5D⟩, ⟨nat_lit 0x2F800, nat_lit 0x2FA1D⟩,
     ⟨nat_lit 0x30000, nat_lit 0x3134A⟩, ⟨nat_lit 0x31350, nat_lit 0x323AF⟩]),
  ("Diacritic",
    [⟨nat_lit 0x5E, nat_lit 0x5E⟩, ⟨nat_lit 0x60, nat_lit 0x60⟩, ⟨nat_lit 0xA8, nat_lit 0xA8⟩,
     ⟨nat_lit 0xAF, nat_lit 0xAF⟩, ⟨nat_lit 0xB4, nat_lit 0xB4⟩, ⟨nat_lit 0xB7, nat_lit 0xB8⟩,
     ⟨nat_lit 0x2B0, nat_lit 0x34E⟩, ⟨nat_lit 0x350, nat_lit 0x357⟩,
     ⟨nat_lit 0x35D, nat_lit 0x362⟩, ⟨nat_lit 0x374, nat_lit 0x375⟩,
     ⟨nat_lit 0x37A, nat_lit 0x37A⟩, ⟨nat_lit 0x384, nat_lit 0x385⟩,
     ⟨nat_lit 0x483, nat_lit 0x487⟩, ⟨nat_lit 0x559, nat_lit 0x559⟩,
     ⟨nat_lit 0x591, nat_lit 0x5A1⟩, ⟨nat_lit 0x5A3, nat_lit 0x5BD⟩,
     ⟨nat_lit 0x5BF, nat_lit 0x5BF⟩, ⟨nat_lit 0x5C1, nat_lit 0x5C2⟩,
     ⟨nat_lit 0x5C4, nat_lit 0x5C4⟩, ⟨nat_lit 0x64B, nat_lit 0x652⟩,
     ⟨nat_lit 0x657, nat_lit 0x658⟩, ⟨nat_lit 0x6DF, nat_lit 0x6E0⟩,
     ⟨nat_lit 0x6E5, nat_lit 0x6E6⟩, ⟨nat_lit 0x6EA, nat_lit 0x6EC⟩,
     ⟨nat_lit 0x730, nat_lit 0x74A⟩, ⟨nat_lit 0x7A6, nat_lit 0x7B0⟩,
     ⟨nat_lit 0x7EB, nat_lit 0x7F5⟩, ⟨nat_lit 0x818, nat_lit 0x819⟩,
     ⟨nat_lit 0x898, nat_lit 0x89F⟩, ⟨nat_lit 0x8C9, nat_lit 0x8D2⟩,
     ⟨nat_lit 0x8E3, nat_lit 0x8FE⟩, ⟨nat_lit 0x93C, nat_lit 0x93C⟩,
     ⟨nat_lit 0x94D, nat_lit 0x94D⟩, ⟨nat_lit 0x951, nat_lit 0x954⟩,
     ⟨nat_lit 0x971, nat_lit 0x971⟩, ⟨nat_lit 0x9BC, nat_lit 0x9BC⟩,
     ⟨nat_lit 0x9CD, nat_lit 0x9CD⟩, ⟨nat_lit 0xA3C, nat_lit 0xA3C⟩,
     ⟨nat_lit 0xA4D, nat_lit 0xA4D⟩, ⟨nat_lit 0xABC, nat_lit 0xABC⟩,
     ⟨nat_lit 0xACD, nat_lit 0xACD⟩, ⟨nat_lit 0xAFD, nat_lit 0xAFF⟩,
     ⟨nat_lit 0xB3C, nat_lit 0xB3C⟩, ⟨nat_lit 0xB4D, nat_lit 0xB4D⟩,
     ⟨nat_lit 0xB55, nat_lit 0xB55⟩, ⟨nat_lit 0xBCD, nat_lit 0xBCD⟩,
     ⟨nat_lit 0xC3C, nat_lit 0xC3C⟩, ⟨nat_lit 0xC4D, nat_lit 0xC4D⟩,
     ⟨nat_lit 0xCBC, nat_lit 0xCBC⟩, ⟨nat_lit 0xCCD, nat_lit 0xCCD⟩,
     ⟨nat_lit 0xD3B, nat_lit 0xD3C⟩, ⟨nat_lit 0xD4D, nat_lit 0xD4D⟩,
     ⟨nat_lit 0xDCA, nat_lit 0xDCA⟩, ⟨nat_lit 0xE3A, nat_lit 0xE3A⟩,
     ⟨nat_lit 0xE47, nat_lit 0xE4C⟩, ⟨nat_lit 0xE4E, nat_lit 0xE4E⟩,
     ⟨nat_lit 0xEBA, nat_lit 0xEBA⟩, ⟨nat_lit 0xEC8, nat_lit 0xECC⟩,
     ⟨nat_lit 0xF18, nat_lit 0xF19⟩, ⟨nat_lit 0xF35, nat_lit 0xF35⟩,
     ⟨nat_lit 0xF37, nat_lit 0xF37⟩, ⟨nat_lit 0xF39, nat_lit 0xF39⟩,
     ⟨nat_lit 0xF3E, nat_lit 0xF3F⟩, ⟨nat_lit 0xF82, nat_lit 0xF84⟩,
     ⟨nat_lit 0xF86, nat_lit 0xF87⟩, ⟨nat_lit 0xFC6, nat_lit 0xFC6⟩,
     ⟨nat_lit 0x1037, nat_lit 0x1037⟩, ⟨nat_lit 0x1039, nat_lit 0x103A⟩,
     ⟨nat_lit 0x1063, nat_lit 0x1064⟩, ⟨nat_lit 0x1069, nat_lit 0x106D⟩,
     ⟨nat_lit 0x1087, nat_lit 0x108D⟩, ⟨nat_lit 0x108F, nat_lit 0x108F⟩,
     ⟨nat_lit 0x109A, nat_lit 0x109B⟩, ⟨nat_lit 0x135D, nat_lit 0x135F⟩,
     ⟨nat_lit 0x1714, nat_lit 0x1715⟩, ⟨nat_lit 0x1734, nat_lit 0x1734⟩,
     ⟨nat_lit 0x17C9, nat_lit 0x17D3⟩, ⟨nat_lit 0x17DD, nat_lit 0x17DD⟩,
     ⟨nat_lit 0x1939, nat_lit 0x193B⟩, ⟨nat_lit 0x1A60, nat_lit 0x1A60⟩,
     ⟨nat_lit 0x1A75, nat_lit 0x1A7C⟩, ⟨nat_lit 0x1A7F, nat_lit 0x1A7F⟩,
     ⟨nat_lit 0x1AB0, nat_lit 0x1ABE⟩, ⟨nat_lit 0x1AC1, nat_lit 0x1ACB⟩,
     ⟨nat_lit 0x1B34, nat_lit 0x1B34⟩, ⟨nat_lit 0x1B44, nat_lit 0x1B44⟩,
     ⟨nat_lit 0x1B6B, nat_lit 0x1B73⟩, ⟨nat_lit 0x1BAA, nat_lit 0x1BAB⟩,
     ⟨nat_lit 0x1BE6, nat_lit 0x1BE6⟩, ⟨nat_lit 0x1BF2, nat_lit 0x1BF3⟩,
     ⟨nat_lit 0x1C36, nat_lit 0x1C37⟩, ⟨nat_lit 0x1C78, nat_lit 0x1C7D⟩,
     ⟨nat_lit 0x1CD0, nat_lit 0x1CE8⟩, ⟨nat_lit 0x1CED, nat_lit 0x1CED⟩,
     ⟨nat_lit 0x1CF4, nat_lit 0x1CF4⟩, ⟨nat_lit 0x1CF7, nat_lit 0x1CF9⟩,
     ⟨nat_lit 0x1D2C, nat_lit 0x1D6A⟩, ⟨nat_lit 0x1DC4, nat_lit 0x1DCF⟩,
     ⟨nat_lit 0x1DF5, nat_lit 0x1DFF⟩, ⟨nat_lit 0x1FBD, nat_lit 0x1FBD⟩,
     ⟨nat_lit 0x1FBF, nat_lit 0x1FC1⟩, ⟨nat_lit 0x1FCD, nat_lit 0x1FCF⟩,
     ⟨nat_lit 0x1FDD, nat_lit 0x1FDF⟩, ⟨nat_lit 0x1FED, nat_lit 0x1FEF⟩,
     ⟨nat_lit 0x1FFD, nat_lit 0x1FFE⟩, ⟨nat_lit 0x2CEF, nat_lit 0x2CF1⟩,
     ⟨nat_lit 0x2E2F, nat_lit 0x2E2F⟩, ⟨nat_lit 0x302A, nat_lit 0x302F⟩,
     ⟨nat_lit 0x3099, nat_lit 0x309C⟩, ⟨nat_lit 0x30FC, nat_lit 0x30FC⟩,
     ⟨nat_lit 0xA66F, nat_lit 0xA66F⟩, ⟨nat_lit 0xA67C, nat_lit 0xA67D⟩,
     ⟨nat_lit 0xA67F, nat_lit 0xA67F⟩, ⟨nat_lit 0xA69C, nat_lit 0xA69D⟩,
     ⟨nat_lit 0xA6F0, nat_lit 0xA6F1⟩, ⟨nat_lit 0xA700, nat_lit 0xA721⟩,
     ⟨nat_lit 0xA788, nat_lit 0xA78A⟩, ⟨nat_lit 0xA7F8, nat_lit 0xA7F9⟩,
     ⟨nat_lit 0xA806, nat_lit 0xA806⟩, ⟨nat_lit 0xA82C, nat_lit 0xA82C⟩,
     ⟨nat_lit 0xA8C4, nat_lit 0xA8C4⟩, ⟨nat_lit 0xA8E0, nat_lit 0xA8F1⟩,
     ⟨nat_lit 0xA92B, nat_lit 0xA92E⟩, ⟨nat_lit 0xA953, nat_lit 0xA953⟩,
     ⟨nat_lit 0xA9B3, nat_lit 0xA9B3⟩, ⟨nat_lit 0xA9C0, nat_lit 0xA9C0⟩,
     ⟨nat_lit 0xA9E5, nat_lit 0xA9E5⟩, ⟨nat_lit 0xAA7B, nat_lit 0xAA7D⟩,
     ⟨nat_lit 0xAABF, nat_lit 0xAAC2⟩, ⟨nat_lit 0xAAF6, nat_lit 0xAAF6⟩,
     ⟨nat_lit 0xAB5B, nat_lit 0xAB5F⟩, ⟨nat_lit 0xAB69, nat_lit 0xAB6B⟩,
     ⟨nat_lit 0xABEC, nat_lit 0xABED⟩, ⟨nat_lit 0xFB1E, nat_lit 0xFB1E⟩,
     ⟨nat_lit 0xFE20, nat_lit 0xFE2F⟩, ⟨nat_lit 0xFF3E, nat_lit 0xFF3E⟩,
     ⟨nat_lit 0xFF40, nat_lit 0xFF40⟩, ⟨nat_lit 0xFF70, nat_lit 0xFF70⟩,
     ⟨nat_lit 0xFF9E, nat_lit 0xFF9F⟩, ⟨nat_lit 0xFFE3, nat_lit 0xFFE3⟩,
     ⟨nat_lit 0x102E0, nat_lit 0x102E0⟩, ⟨nat_lit 0x10780, nat_lit 0x10785⟩,
     ⟨nat_lit 0x10787, nat_lit 0x107B0⟩, ⟨nat_lit 0x107B2, nat_lit 0x107BA⟩,
     ⟨nat_lit 0x10A38, nat_lit 0x10A3A⟩, ⟨nat_lit 0x10A3F, nat_lit 0x10A3F⟩,
     ⟨nat_lit 0x10AE5, nat_lit 0x10AE6⟩, ⟨nat_lit 0x10D22, nat_lit 0x10D27⟩,
     ⟨nat_lit 0x10D4E, nat_lit 0x10D4E⟩, ⟨nat_lit 0x10D69, nat_lit 0x10D6D⟩,
     ⟨nat_lit 0x10EFD, nat_lit 0x10EFF⟩, ⟨nat_lit 0x10F46, nat_lit 0x10F50⟩,
     ⟨nat_lit 0x10F82, nat_lit 0x10F85⟩, ⟨nat_lit 0x11046, nat_lit 0x11046⟩,
     ⟨nat_lit 0x11070, nat_lit 0x11070⟩, ⟨nat_lit 0x110B9, nat_lit 0x110BA⟩,
     ⟨nat_lit 0x11133, nat_lit 0x11134⟩, ⟨nat_lit 0x11173, nat_lit 0x11173⟩,
     ⟨nat_lit 0x111C0, nat_lit 0x111C0⟩, ⟨nat_lit 0x111CA, nat_lit 0x111CC⟩,
     ⟨nat_lit 0x11235, nat_lit 0x11236⟩, ⟨nat_lit 0x112E9, nat_lit 0x112EA⟩,
     ⟨nat_lit 0x1133B, nat_lit 0x1133C⟩, ⟨nat_lit 0x1134D, nat_lit 0x1134D⟩,
     ⟨nat_lit 0x11366, nat_lit 0x1136C⟩, ⟨nat_lit 0x11370, nat_lit 0x11374⟩,
     ⟨nat_lit 0x113CE, nat_lit 0x113D0⟩, ⟨nat_lit 0x113D2, nat_lit 0x113D3⟩,
     ⟨nat_lit 0x113E1, nat_lit 0x113E2⟩, ⟨nat_lit 0x11442, nat_lit 0x11442⟩,
     ⟨nat_lit 0x11446, nat_lit 0x11446⟩, ⟨nat_lit 0x114C2, nat_lit 0x114C3⟩,
     ⟨nat_lit 0x115BF, nat_lit 0x115C0⟩, ⟨nat_lit 0x1163F, nat_lit 0x1163F⟩,
     ⟨nat_lit 0x116B6, nat_lit 0x116B7⟩, ⟨nat_lit 0x1172B, nat_lit 0x1172B⟩,
     ⟨nat_lit 0x11839, nat_lit 0x1183A⟩, ⟨nat_lit 0x1193D, nat_lit 0x1193E⟩,
     ⟨nat_lit 0x11943, nat_lit 0x11943⟩, ⟨nat_lit 0x119E0, nat_lit 0x119E0⟩,
     ⟨nat_lit 0x11A34, nat_lit 0x11A34⟩, ⟨nat_lit 0x11A47, nat_lit 0x11A47⟩,
     ⟨nat_lit 0x11A99, nat_lit 0x11A99⟩, ⟨nat_lit 0x11C3F, nat_lit 0x11C3F⟩,
     ⟨nat_lit 0x11D42, nat_lit 0x11D42⟩, ⟨nat_lit 0x11D44, nat_lit 0x11D45⟩,
     ⟨nat_lit 0x11D97, nat_lit 0x11D97⟩, ⟨nat_lit 0x11F41, nat_lit 0x11F42⟩,
     ⟨nat_lit 0x11F5A, nat_lit 0x11F5A⟩, ⟨nat_lit 0x13447, nat_lit 0x13455⟩,
     ⟨nat_lit 0x1612F, nat_lit 0x1612F⟩, ⟨nat_lit 0x16AF0, nat_lit 0x16AF4⟩,
     ⟨nat_lit 0x16B30, nat_lit 0x16B36⟩, ⟨nat_lit 0x16D6B, nat_lit 0x16D6C⟩,
     ⟨nat_lit 0x16F8F, nat_lit 0x16F9F⟩, ⟨nat_lit 0x16FF0, nat_lit 0x16FF1⟩,
     ⟨nat_lit 0x1AFF0, nat_lit 0x1AFF3⟩, ⟨nat_lit 0x1AFF5, nat_lit 0x1AFFB⟩,
     ⟨nat_lit 0x1AFFD, nat_lit 0x1AFFE⟩, ⟨nat_lit 0x1CF00, nat_lit 0x1CF2D⟩,
     ⟨nat_lit 0x1CF30, nat_lit 0x1CF46⟩, ⟨nat_lit 0x1D167, nat_lit 0x1D169⟩,
     ⟨nat_lit 0x1D16D, nat_lit 0x1D172⟩, ⟨nat_lit 0x1D17B, nat_lit 0x1D182⟩,
     ⟨nat_lit 0x1D185, nat_lit 0x1D18B⟩, ⟨nat_lit 0x1D1AA, nat_lit 0x1D1AD⟩,
     ⟨nat_lit 0x1E030, nat_lit 0x1E06D⟩, ⟨nat_lit 0x1E130, nat_lit 0x1E136⟩,
     ⟨nat_lit 0x1E2AE, nat_lit 0x1E2AE⟩, ⟨nat_lit 0x1E2EC, nat_lit 0x1E2EF⟩,
     ⟨nat_lit 0x1E5EE, nat_lit 0x1E5EF⟩, ⟨nat_lit 0x1E8D0, nat_lit 0x1E8D6⟩,
     ⟨nat_lit 0x1E944, nat_lit 0x1E946⟩, ⟨nat_lit 0x1E948, nat_lit 0x1E94A⟩]),
  ("Extender",
    [⟨nat_lit 0xB7, nat_lit 0xB7⟩, ⟨nat_lit 0x2D0, nat_lit 0x2D1⟩, ⟨nat_lit 0x640, nat_lit 0x640⟩,
     ⟨nat_lit 0x7FA, nat_lit 0x7FA⟩, ⟨nat_lit 0xA71, nat_lit 0xA71⟩,
     ⟨nat_lit 0xAFB, nat_lit 0xAFB⟩, ⟨nat_lit 0xB55, nat_lit 0xB55⟩,
     ⟨nat_lit 0xE46, nat_lit 0xE46⟩, ⟨nat_lit 0xEC6, nat_lit 0xEC6⟩,
     ⟨nat_lit 0x180A, nat_lit 0x180A⟩, ⟨nat_lit 0x1843, nat_lit 0x1843⟩,
     ⟨nat_lit 0x1AA7, nat_lit 0x1AA7⟩, ⟨nat_lit 0x1C36, nat_lit 0x1C36⟩,
     ⟨nat_lit 0x1C7B, nat_lit 0x1C7B⟩, ⟨nat_lit 0x3005, nat_lit 0x3005⟩,
     ⟨nat_lit 0x3031, nat_lit 0x3035⟩, ⟨nat_lit 0x309D, nat_lit 0x309E⟩,
     ⟨nat_lit 0x30FC, nat_lit 0x30FE⟩, ⟨nat_lit 0xA015, nat_lit 0xA015⟩,
     ⟨nat_lit 0xA60C, nat_lit 0xA60C⟩, ⟨nat_lit 0xA9CF, nat_lit 0xA9CF⟩,
     ⟨nat_lit 0xA9E6, nat_lit 0xA9E6⟩, ⟨nat_lit 0xAA70, nat_lit 0xAA70⟩,
     ⟨nat_lit 0xAADD, nat_lit 0xAADD⟩, ⟨nat_lit 0xAAF3, nat_lit 0xAAF4⟩,
     ⟨nat_lit 0xFF70, nat_lit 0xFF70⟩, ⟨nat_lit 0x10781, nat_lit 0x10782⟩,
     ⟨nat_lit 0x10D4E, nat_lit 0x10D4E⟩, ⟨nat_lit 0x10D6A, nat_lit 0x10D6A⟩,
     ⟨nat_lit 0x10D6F, nat_lit 0x10D6F⟩, ⟨nat_lit 0x11237, nat_lit 0x11237⟩,
     ⟨nat_lit 0x1135D, nat_lit 0x1135D⟩, ⟨nat_lit 0x113D2, nat_lit 0x113D3⟩,
     ⟨nat_lit 0x115C6, nat_lit 0x115C8⟩, ⟨nat_lit 0x11A98, nat_lit 0x11A98⟩,
     ⟨nat_lit 0x16B42, nat_lit 0x16B43⟩, ⟨nat_lit 0x16FE0, nat_lit 0x16FE1⟩,
     ⟨nat_lit 0x16FE3, nat_lit 0x16FE3⟩, ⟨nat_lit 0x1E13C, nat_lit 0x1E13D⟩,
     ⟨nat_lit 0x1E5EF, nat_lit 0x1E5EF⟩, ⟨nat_lit 0x1E944, nat_lit 0x1E946⟩]),
  ("Logical_Order_Exception",
    [⟨nat_lit 0xE40, nat_lit 0xE44⟩, ⟨nat_lit 0xEC0, nat_lit 0xEC4⟩,
     ⟨nat_lit 0x19B5, nat_lit 0x19B7⟩, ⟨nat_lit 0x19BA, nat_lit 0x19BA⟩,
     ⟨nat_lit 0xAAB5, nat_lit 0xAAB6⟩, ⟨nat_lit 0xAAB9, nat_lit 0xAAB9⟩,
     ⟨nat_lit 0xAABB, nat_lit 0xAABC⟩])]

end Unicode

end EcmaRegex
