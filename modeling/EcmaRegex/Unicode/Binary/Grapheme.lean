import EcmaRegex.CodePointSet.Basic
/-!
# Binary properties of grapheme clusters

The characters that form the base of a grapheme cluster, and those that extend one.
Unicode character database, version 16.0; each table lists the code points that have the
property, as ranges, by the property's long name.
-/

namespace EcmaRegex

namespace Unicode

set_option maxRecDepth 20000 in
/-- Binary properties of grapheme clusters, as ranges, by long name. -/
def graphemeTables : List (String × List CodePointRange) := [
  ("Grapheme_Base",
    [⟨nat_lit 0x20, nat_lit 0x7E⟩, ⟨nat_lit 0xA0, nat_lit 0xAC⟩, ⟨nat_lit 0xAE, nat_lit 0x2FF⟩,
     ⟨nat_lit 0x370, nat_lit 0x377⟩, ⟨nat_lit 0x37A, nat_lit 0x37F⟩,
     ⟨nat_lit 0x384, nat_lit 0x38A⟩, ⟨nat_lit 0x38C, nat_lit 0x38C⟩,
     ⟨nat_lit 0x38E, nat_lit 0x3A1⟩, ⟨nat_lit 0x3A3, nat_lit 0x482⟩,
     ⟨nat_lit 0x48A, nat_lit 0x52F⟩, ⟨nat_lit 0x531, nat_lit 0x556⟩,
     ⟨nat_lit 0x559, nat_lit 0x58A⟩, ⟨nat_lit 0x58D, nat_lit 0x58F⟩,
     ⟨nat_lit 0x5BE, nat_lit 0x5BE⟩, ⟨nat_lit 0x5C0, nat_lit 0x5C0⟩,
     ⟨nat_lit 0x5C3, nat_lit 0x5C3⟩, ⟨nat_lit 0x5C6, nat_lit 0x5C6⟩,
     ⟨nat_lit 0x5D0, nat_lit 0x5EA⟩, ⟨nat_lit 0x5EF, nat_lit 0x5F4⟩,
     ⟨nat_lit 0x606, nat_lit 0x60F⟩, ⟨nat_lit 0x61B, nat_lit 0x61B⟩,
     ⟨nat_lit 0x61D, nat_lit 0x64A⟩, ⟨nat_lit 0x660, nat_lit 0x66F⟩,
     ⟨nat_lit 0x671, nat_lit 0x6D5⟩, ⟨nat_lit 0x6DE, nat_lit 0x6DE⟩,
     ⟨nat_lit 0x6E5, nat_lit 0x6E6⟩, ⟨nat_lit 0x6E9, nat_lit 0x6E9⟩,
     ⟨nat_lit 0x6EE, nat_lit 0x70D⟩, ⟨nat_lit 0x710, nat_lit 0x710⟩,
     ⟨nat_lit 0x712, nat_lit 0x72F⟩, ⟨nat_lit 0x74D, nat_lit 0x7A5⟩,
     ⟨nat_lit 0x7B1, nat_lit 0x7B1⟩, ⟨nat_lit 0x7C0, nat_lit 0x7EA⟩,
     ⟨nat_lit 0x7F4, nat_lit 0x7FA⟩, ⟨nat_lit 0x7FE, nat_lit 0x815⟩,
     ⟨nat_lit 0x81A, nat_lit 0x81A⟩, ⟨nat_lit 0x824, nat_lit 0x824⟩,
     ⟨nat_lit 0x828, nat_lit 0x828⟩, ⟨nat_lit 0x830, nat_lit 0x83E⟩,
     ⟨nat_lit 0x840, nat_lit 0x858⟩, ⟨nat_lit 0x85E, nat_lit 0x85E⟩,
     ⟨nat_lit 0x860, nat_lit 0x86A⟩, ⟨nat_lit 0x870, nat_lit 0x88E⟩,
     ⟨nat_lit 0x8A0, nat_lit 0x8C9⟩, ⟨nat_lit 0x903, nat_lit 0x939⟩,
     ⟨nat_lit 0x93B, nat_lit 0x93B⟩, ⟨nat_lit 0x93D, nat_lit 0x940⟩,
     ⟨nat_lit 0x949, nat_lit 0x94C⟩, ⟨nat_lit 0x94E, nat_lit 0x950⟩,
     ⟨nat_lit 0x958, nat_lit 0x961⟩, ⟨nat_lit 0x964, nat_lit 0x980⟩,
     ⟨nat_lit 0x982, nat_lit 0x983⟩, ⟨nat_lit 0x985, nat_lit 0x98C⟩,
     ⟨nat_lit 0x98F, nat_lit 0x990⟩, ⟨nat_lit 0x993, nat_lit 0x9A8⟩,
     ⟨nat_lit 0x9AA, nat_lit 0x9B0⟩, ⟨nat_lit 0x9B2, nat_lit 0x9B2⟩,
     ⟨nat_lit 0x9B6, nat_lit 0x9B9⟩, ⟨nat_lit 0x9BD, nat_lit 0x9BD⟩,
     ⟨nat_lit 0x9BF, nat_lit 0x9C0⟩, ⟨nat_lit 0x9C7, nat_lit 0x9C8⟩,
     ⟨nat_lit 0x9CB, nat_lit 0x9CC⟩, ⟨nat_lit 0x9CE, nat_lit 0x9CE⟩,
     ⟨nat_lit 0x9DC, nat_lit 0x9DD⟩, ⟨nat_lit 0x9DF, nat_lit 0x9E1⟩,
     ⟨nat_lit 0x9E6, nat_lit 0x9FD⟩, ⟨nat_lit 0xA03, nat_lit 0xA03⟩,
     ⟨nat_lit 0xA05, nat_lit 0xA0A⟩, ⟨nat_lit 0xA0F, nat_lit 0xA10⟩,
     ⟨nat_lit 0xA13, nat_lit 0xA28⟩, ⟨nat_lit 0xA2A, nat_lit 0xA30⟩,
     ⟨nat_lit 0xA32, nat_lit 0xA33⟩, ⟨nat_lit 0xA35, nat_lit 0xA36⟩,
     ⟨nat_lit 0xA38, nat_lit 0xA39⟩, ⟨nat_lit 0xA3E, nat_lit 0xA40⟩,
     ⟨nat_lit 0xA59, nat_lit 0xA5C⟩, ⟨nat_lit 0xA5E, nat_lit 0xA5E⟩,
     ⟨nat_lit 0xA66, nat_lit 0xA6F⟩, ⟨nat_lit 0xA72, nat_lit 0xA74⟩,
     ⟨nat_lit 0xA76, nat_lit 0xA76⟩, ⟨nat_lit 0xA83, nat_lit 0xA83⟩,
     ⟨nat_lit 0xA85, nat_lit 0xA8D⟩, ⟨nat_lit 0xA8F, nat_lit 0xA91⟩,
     ⟨nat_lit 0xA93, nat_lit 0xAA8⟩, ⟨nat_lit 0xAAA, nat_lit 0xAB0⟩,
     ⟨nat_lit 0xAB2, nat_lit 0xAB3⟩, ⟨nat_lit 0xAB5, nat_lit 0xAB9⟩,
     ⟨nat_lit 0xABD, nat_lit 0xAC0⟩, ⟨nat_lit 0xAC9, nat_lit 0xAC9⟩,
     ⟨nat_lit 0xACB, nat_lit 0xACC⟩, ⟨nat_lit 0xAD0, nat_lit 0xAD0⟩,
     ⟨nat_lit 0xAE0, nat_lit 0xAE1⟩, ⟨nat_lit 0xAE6, nat_lit 0xAF1⟩,
     ⟨nat_lit 0xAF9, nat_lit 0xAF9⟩, ⟨nat_lit 0xB02, nat_lit 0xB03⟩,
     ⟨nat_lit 0xB05, nat_lit 0xB0C⟩, ⟨nat_lit 0xB0F, nat_lit 0xB10⟩,
     ⟨nat_lit 0xB13, nat_lit 0xB28⟩, ⟨nat_lit 0xB2A, nat_lit 0xB30⟩,
     ⟨nat_lit 0xB32, nat_lit 0xB33⟩, ⟨nat_lit 0xB35, nat_lit 0xB39⟩,
     ⟨nat_lit 0xB3D, nat_lit 0xB3D⟩, ⟨nat_lit 0xB40, nat_lit 0xB40⟩,
     ⟨nat_lit 0xB47, nat_lit 0xB48⟩, ⟨nat_lit 0xB4B, nat_lit 0xB4C⟩,
     ⟨nat_lit 0xB5C, nat_lit 0xB5D⟩, ⟨nat_lit 0xB5F, nat_lit 0xB61⟩,
     ⟨nat_lit 0xB66, nat_lit 0xB77⟩, ⟨nat_lit 0xB83, nat_lit 0xB83⟩,
     ⟨nat_lit 0xB85, nat_lit 0xB8A⟩, ⟨nat_lit 0xB8E, nat_lit 0xB90⟩,
     ⟨nat_lit 0xB92, nat_lit 0xB95⟩, ⟨nat_lit 0xB99, nat_lit 0xB9A⟩,
     ⟨nat_lit 0xB9C, nat_lit 0xB9C⟩, ⟨nat_lit 0xB9E, nat_lit 0xB9F⟩,
     ⟨nat_lit 0xBA3, nat_lit 0xBA4⟩, ⟨nat_lit 0xBA8, nat_lit 0xBAA⟩,
     ⟨nat_lit 0xBAE, nat_lit 0xBB9⟩, ⟨nat_lit 0xBBF, nat_lit 0xBBF⟩,
     ⟨nat_lit 0xBC1, nat_lit 0xBC2⟩, ⟨nat_lit 0xBC6, nat_lit 0xBC8⟩,
     ⟨nat_lit 0xBCA, nat_lit 0xBCC⟩, ⟨nat_lit 0xBD0, nat_lit 0xBD0⟩,
     ⟨nat_lit 0xBE6, nat_lit 0xBFA⟩, ⟨nat_lit 0xC01, nat_lit 0xC03⟩,
     ⟨nat_lit 0xC05, nat_lit 0xC0C⟩, ⟨nat_lit 0xC0E, nat_lit 0xC10⟩,
     ⟨nat_lit 0xC12, nat_lit 0xC28⟩, ⟨nat_lit 0xC2A, nat_lit 0xC39⟩,
     ⟨nat_lit 0xC3D, nat_lit 0xC3D⟩, ⟨nat_lit 0xC41, nat_lit 0xC44⟩,
     ⟨nat_lit 0xC58, nat_lit 0xC5A⟩, ⟨nat_lit 0xC5D, nat_lit 0xC5D⟩,
     ⟨nat_lit 0xC60, nat_lit 0xC61⟩, ⟨nat_lit 0xC66, nat_lit 0xC6F⟩,
     ⟨nat_lit 0xC77, nat_lit 0xC80⟩, ⟨nat_lit 0xC82, nat_lit 0xC8C⟩,
     ⟨nat_lit 0xC8E, nat_lit 0xC90⟩, ⟨nat_lit 0xC92, nat_lit 0xCA8⟩,
     ⟨nat_lit 0xCAA, nat_lit 0xCB3⟩, ⟨nat_lit 0xCB5, nat_lit 0xCB9⟩,
     ⟨nat_lit 0xCBD, nat_lit 0xCBE⟩, ⟨nat_lit 0xCC1, nat_lit 0xCC1⟩,
     ⟨nat_lit 0xCC3, nat_lit 0xCC4⟩, ⟨nat_lit 0xCDD, nat_lit 0xCDE⟩,
     ⟨nat_lit 0xCE0, nat_lit 0xCE1⟩, ⟨nat_lit 0xCE6, nat_lit 0xCEF⟩,
     ⟨nat_lit 0xCF1, nat_lit 0xCF3⟩, ⟨nat_lit 0xD02, nat_lit 0xD0C⟩,
     ⟨nat_lit 0xD0E, nat_lit 0xD10⟩, ⟨nat_lit 0xD12, nat_lit 0xD3A⟩,
     ⟨nat_lit 0xD3D, nat_lit 0xD3D⟩, ⟨nat_lit 0xD3F, nat_lit 0xD40⟩,
     ⟨nat_lit 0xD46, nat_lit 0xD48⟩, ⟨nat_lit 0xD4A, nat_lit 0xD4C⟩,
     ⟨nat_lit 0xD4E, nat_lit 0xD4F⟩, ⟨nat_lit 0xD54, nat_lit 0xD56⟩,
     ⟨nat_lit 0xD58, nat_lit 0xD61⟩, ⟨nat_lit 0xD66, nat_lit 0xD7F⟩,
     ⟨nat_lit 0xD82, nat_lit 0xD83⟩, ⟨nat_lit 0xD85, nat_lit 0xD96⟩,
     ⟨nat_lit 0xD9A, nat_lit 0xDB1⟩, ⟨nat_lit 0xDB3, nat_lit 0xDBB⟩,
     ⟨nat_lit 0xDBD, nat_lit 0xDBD⟩, ⟨nat_lit 0xDC0, nat_lit 0xDC6⟩,
     ⟨nat_lit 0xDD0, nat_lit 0xDD1⟩, ⟨nat_lit 0xDD8, nat_lit 0xDDE⟩,
     ⟨nat_lit 0xDE6, nat_lit 0xDEF⟩, ⟨nat_lit 0xDF2, nat_lit 0xDF4⟩,
     ⟨nat_lit 0xE01, nat_lit 0xE30⟩, ⟨nat_lit 0xE32, nat_lit 0xE33⟩,
     ⟨nat_lit 0xE3F, nat_lit 0xE46⟩, ⟨nat_lit 0xE4F, nat_lit 0xE5B⟩,
     ⟨nat_lit 0xE81, nat_lit 0xE82⟩, ⟨nat_lit 0xE84, nat_lit 0xE84⟩,
     ⟨nat_lit 0xE86, nat_lit 0xE8A⟩, ⟨nat_lit 0xE8C, nat_lit 0xEA3⟩,
     ⟨nat_lit 0xEA5, nat_lit 0xEA5⟩, ⟨nat_lit 0xEA7, nat_lit 0xEB0⟩,
     ⟨nat_lit 0xEB2, nat_lit 0xEB3⟩, ⟨nat_lit 0xEBD, nat_lit 0xEBD⟩,
     ⟨nat_lit 0xEC0, nat_lit 0xEC4⟩, ⟨nat_lit 0xEC6, nat_lit 0xEC6⟩,
     ⟨nat_lit 0xED0, nat_lit 0xED9⟩, ⟨nat_lit 0xEDC, nat_lit 0xEDF⟩,
     ⟨nat_lit 0xF00, nat_lit 0xF17⟩, ⟨nat_lit 0xF1A, nat_lit 0xF34⟩,
     ⟨nat_lit 0xF36, nat_lit 0xF36⟩, ⟨nat_lit 0xF38, nat_lit 0xF38⟩,
     ⟨nat_lit 0xF3A, nat_lit 0xF47⟩, ⟨nat_lit 0xF49, nat_lit 0xF6C⟩,
     ⟨nat_lit 0xF7F, nat_lit 0xF7F⟩, ⟨nat_lit 0xF85, nat_lit 0xF85⟩,
     ⟨nat_lit 0xF88, nat_lit 0xF8C⟩, ⟨nat_lit 0xFBE, nat_lit 0xFC5⟩,
     ⟨nat_lit 0xFC7, nat_lit 0xFCC⟩, ⟨nat_lit 0xFCE, nat_lit 0xFDA⟩,
     ⟨nat_lit 0x1000, nat_lit 0x102C⟩, ⟨nat_lit 0x1031, nat_lit 0x1031⟩,
     ⟨nat_lit 0x1038, nat_lit 0x1038⟩, ⟨nat_lit 0x103B, nat_lit 0x103C⟩,
     ⟨nat_lit 0x103F, nat_lit 0x1057⟩, ⟨nat_lit 0x105A, nat_lit 0x105D⟩,
     ⟨nat_lit 0x1061, nat_lit 0x1070⟩, ⟨nat_lit 0x1075, nat_lit 0x1081⟩,
     ⟨nat_lit 0x1083, nat_lit 0x1084⟩, ⟨nat_lit 0x1087, nat_lit 0x108C⟩,
     ⟨nat_lit 0x108E, nat_lit 0x109C⟩, ⟨nat_lit 0x109E, nat_lit 0x10C5⟩,
     ⟨nat_lit 0x10C7, nat_lit 0x10C7⟩, ⟨nat_lit 0x10CD, nat_lit 0x10CD⟩,
     ⟨nat_lit 0x10D0, nat_lit 0x1248⟩, ⟨nat_lit 0x124A, nat_lit 0x124D⟩,
     ⟨nat_lit 0x1250, nat_lit 0x1256⟩, ⟨nat_lit 0x1258, nat_lit 0x1258⟩,
     ⟨nat_lit 0x125A, nat_lit 0x125D⟩, ⟨nat_lit 0x1260, nat_lit 0x1288⟩,
     ⟨nat_lit 0x128A, nat_lit 0x128D⟩, ⟨nat_lit 0x1290, nat_lit 0x12B0⟩,
     ⟨nat_lit 0x12B2, nat_lit 0x12B5⟩, ⟨nat_lit 0x12B8, nat_lit 0x12BE⟩,
     ⟨nat_lit 0x12C0, nat_lit 0x12C0⟩, ⟨nat_lit 0x12C2, nat_lit 0x12C5⟩,
     ⟨nat_lit 0x12C8, nat_lit 0x12D6⟩, ⟨nat_lit 0x12D8, nat_lit 0x1310⟩,
     ⟨nat_lit 0x1312, nat_lit 0x1315⟩, ⟨nat_lit 0x1318, nat_lit 0x135A⟩,
     ⟨nat_lit 0x1360, nat_lit 0x137C⟩, ⟨nat_lit 0x1380, nat_lit 0x1399⟩,
     ⟨nat_lit 0x13A0, nat_lit 0x13F5⟩, ⟨nat_lit 0x13F8, nat_lit 0x13FD⟩,
     ⟨nat_lit 0x1400, nat_lit 0x169C⟩, ⟨nat_lit 0x16A0, nat_lit 0x16F8⟩,
     ⟨nat_lit 0x1700, nat_lit 0x1711⟩, ⟨nat_lit 0x171F, nat_lit 0x1731⟩,
     ⟨nat_lit 0x1735, nat_lit 0x1736⟩, ⟨nat_lit 0x1740, nat_lit 0x1751⟩,
     ⟨nat_lit 0x1760, nat_lit 0x176C⟩, ⟨nat_lit 0x176E, nat_lit 0x1770⟩,
     ⟨nat_lit 0x1780, nat_lit 0x17B3⟩, ⟨nat_lit 0x17B6, nat_lit 0x17B6⟩,
     ⟨nat_lit 0x17BE, nat_lit 0x17C5⟩, ⟨nat_lit 0x17C7, nat_lit 0x17C8⟩,
     ⟨nat_lit 0x17D4, nat_lit 0x17DC⟩, ⟨nat_lit 0x17E0, nat_lit 0x17E9⟩,
     ⟨nat_lit 0x17F0, nat_lit 0x17F9⟩, ⟨nat_lit 0x1800, nat_lit 0x180A⟩,
     ⟨nat_lit 0x1810, nat_lit 0x1819⟩, ⟨nat_lit 0x1820, nat_lit 0x1878⟩,
     ⟨nat_lit 0x1880, nat_lit 0x1884⟩, ⟨nat_lit 0x1887, nat_lit 0x18A8⟩,
     ⟨nat_lit 0x18AA, nat_lit 0x18AA⟩, ⟨nat_lit 0x18B0, nat_lit 0x18F5⟩,
     ⟨nat_lit 0x1900, nat_lit 0x191E⟩, ⟨nat_lit 0x1923, nat_lit 0x1926⟩,
     ⟨nat_lit 0x1929, nat_lit 0x192B⟩, ⟨nat_lit 0x1930, nat_lit 0x1931⟩,
     ⟨nat_lit 0x1933, nat_lit 0x1938⟩, ⟨nat_lit 0x1940, nat_lit 0x1940⟩,
     ⟨nat_lit 0x1944, nat_lit 0x196D⟩, ⟨nat_lit 0x1970, nat_lit 0x1974⟩,
     ⟨nat_lit 0x1980, nat_lit 0x19AB⟩, ⟨nat_lit 0x19B0, nat_lit 0x19C9⟩,
     ⟨nat_lit 0x19D0, nat_lit 0x19DA⟩, ⟨nat_lit 0x19DE, nat_lit 0x1A16⟩,
     ⟨nat_lit 0x1A19, nat_lit 0x1A1A⟩, ⟨nat_lit 0x1A1E, nat_lit 0x1A55⟩,
     ⟨nat_lit 0x1A57, nat_lit 0x1A57⟩, ⟨nat_lit 0x1A61, nat_lit 0x1A61⟩,
     ⟨nat_lit 0x1A63, nat_lit 0x1A64⟩, ⟨nat_lit 0x1A6D, nat_lit 0x1A72⟩,
     ⟨nat_lit 0x1A80, nat_lit 0x1A89⟩, ⟨nat_lit 0x1A90, nat_lit 0x1A99⟩,
     ⟨nat_lit 0x1AA0, nat_lit 0x1AAD⟩, ⟨nat_lit 0x1B04, nat_lit 0x1B33⟩,
     ⟨nat_lit 0x1B3E, nat_lit 0x1B41⟩, ⟨nat_lit 0x1B45, nat_lit 0x1B4C⟩,
     ⟨nat_lit 0x1B4E, nat_lit 0x1B6A⟩, ⟨nat_lit 0x1B74, nat_lit 0x1B7F⟩,
     ⟨nat_lit 0x1B82, nat_lit 0x1BA1⟩, ⟨nat_lit 0x1BA6, nat_lit 0x1BA7⟩,
     ⟨nat_lit 0x1BAE, nat_lit 0x1BE5⟩, ⟨nat_lit 0x1BE7, nat_lit 0x1BE7⟩,
     ⟨nat_lit 0x1BEA, nat_lit 0x1BEC⟩, ⟨nat_lit 0x1BEE, nat_lit 0x1BEE⟩,
     ⟨nat_lit 0x1BFC, nat_lit 0x1C2B⟩, ⟨nat_lit 0x1C34, nat_lit 0x1C35⟩,
     ⟨nat_lit 0x1C3B, nat_lit 0x1C49⟩, ⟨nat_lit 0x1C4D, nat_lit 0x1C8A⟩,
     ⟨nat_lit 0x1C90, nat_lit 0x1CBA⟩, ⟨nat_lit 0x1CBD, nat_lit 0x1CC7⟩,
     ⟨nat_lit 0x1CD3, nat_lit 0x1CD3⟩, ⟨nat_lit 0x1CE1, nat_lit 0x1CE1⟩,
     ⟨nat_lit 0x1CE9, nat_lit 0x1CEC⟩, ⟨nat_lit 0x1CEE, nat_lit 0x1CF3⟩,
     ⟨nat_lit 0x1CF5, nat_lit 0x1CF7⟩, ⟨nat_lit 0x1CFA, nat_lit 0x1CFA⟩,
     ⟨nat_lit 0x1D00, nat_lit 0x1DBF⟩, ⟨nat_lit 0x1E00, nat_lit 0x1F15⟩,
     ⟨nat_lit 0x1F18, nat_lit 0x1F1D⟩, ⟨nat_lit 0x1F20, nat_lit 0x1F45⟩,
     ⟨nat_lit 0x1F48, nat_lit 0x1F4D⟩, ⟨nat_lit 0x1F50, nat_lit 0x1F57⟩,
     ⟨nat_lit 0x1F59, nat_lit 0x1F59⟩, ⟨nat_lit 0x1F5B, nat_lit 0x1F5B⟩,
     ⟨nat_lit 0x1F5D, nat_lit 0x1F5D⟩, ⟨nat_lit 0x1F5F, nat_lit 0x1F7D⟩,
     ⟨nat_lit 0x1F80, nat_lit 0x1FB4⟩, ⟨nat_lit 0x1FB6, nat_lit 0x1FC4⟩,
     ⟨nat_lit 0x1FC6, nat_lit 0x1FD3⟩, ⟨nat_lit 0x1FD6, nat_lit 0x1FDB⟩,
     ⟨nat_lit 0x1FDD, nat_lit 0x1FEF⟩, ⟨nat_lit 0x1FF2, nat_lit 0x1FF4⟩,
     ⟨nat_lit 0x1FF6, nat_lit 0x1FFE⟩, ⟨nat_lit 0x2000, nat_lit 0x200A⟩,
     ⟨nat_lit 0x2010, nat_lit 0x2027⟩, ⟨nat_lit 0x202F, nat_lit 0x205F⟩,
     ⟨nat_lit 0x2070, nat_lit 0x2071⟩, ⟨nat_lit 0x2074, nat_lit 0x208E⟩,
     ⟨nat_lit 0x2090, nat_lit 0x209C⟩, ⟨nat_lit 0x20A0, nat_lit 0x20C0⟩,
     ⟨nat_lit 0x2100, nat_lit 0x218B⟩, ⟨nat_lit 0x2190, nat_lit 0x2429⟩,
     ⟨nat_lit 0x2440, nat_lit 0x244A⟩, ⟨nat_lit 0x2460, nat_lit 0x2B73⟩,
     ⟨nat_lit 0x2B76, nat_lit 0x2B95⟩, ⟨nat_lit 0x2B97, nat_lit 0x2CEE⟩,
     ⟨nat_lit 0x2CF2, nat_lit 0x2CF3⟩, ⟨nat_lit 0x2CF9, nat_lit 0x2D25⟩,
     ⟨nat_lit 0x2D27, nat_lit 0x2D27⟩, ⟨nat_lit 0x2D2D, nat_lit 0x2D2D⟩,
     ⟨nat_lit 0x2D30, nat_lit 0x2D67⟩, ⟨nat_lit 0x2D6F, nat_lit 0x2D70⟩,
     ⟨nat_lit 0x2D80, nat_lit 0x2D96⟩, ⟨nat_lit 0x2DA0, nat_lit 0x2DA6⟩,
     ⟨nat_lit 0x2DA8, nat_lit 0x2DAE⟩, ⟨nat_lit 0x2DB0, nat_lit 0x2DB6⟩,
     ⟨nat_lit 0x2DB8, nat_lit 0x2DBE⟩, ⟨nat_lit 0x2DC0, nat_lit 0x2DC6⟩,
     ⟨nat_lit 0x2DC8, nat_lit 0x2DCE⟩, ⟨nat_lit 0x2DD0, nat_lit 0x2DD6⟩,
     ⟨nat_lit 0x2DD8, nat_lit 0x2DDE⟩, ⟨nat_lit 0x2E00, nat_lit 0x2E5D⟩,
     ⟨nat_lit 0x2E80, nat_lit 0x2E99⟩, ⟨nat_lit 0x2E9B, nat_lit 0x2EF3⟩,
     ⟨nat_lit 0x2F00, nat_lit 0x2FD5⟩, ⟨nat_lit 0x2FF0, nat_lit 0x3029⟩,
     ⟨nat_lit 0x3030, nat_lit 0x303F⟩, ⟨nat_lit 0x3041, nat_lit 0x3096⟩,
     ⟨nat_lit 0x309B, nat_lit 0x30FF⟩, ⟨nat_lit 0x3105, nat_lit 0x312F⟩,
     ⟨nat_lit 0x3131, nat_lit 0x318E⟩, ⟨nat_lit 0x3190, nat_lit 0x31E5⟩,
     ⟨nat_lit 0x31EF, nat_lit 0x321E⟩, ⟨nat_lit 0x3220, nat_lit 0xA48C⟩,
     ⟨nat_lit 0xA490, nat_lit 0xA4C6⟩, ⟨nat_lit 0xA4D0, nat_lit 0xA62B⟩,
     ⟨nat_lit 0xA640, nat_lit 0xA66E⟩, ⟨nat_lit 0xA673, nat_lit 0xA673⟩,
     ⟨nat_lit 0xA67E, nat_lit 0xA69D⟩, ⟨nat_lit 0xA6A0, nat_lit 0xA6EF⟩,
     ⟨nat_lit 0xA6F2, nat_lit 0xA6F7⟩, ⟨nat_lit 0xA700, nat_lit 0xA7CD⟩,
     ⟨nat_lit 0xA7D0, nat_lit 0xA7D1⟩, ⟨nat_lit 0xA7D3, nat_lit 0xA7D3⟩,
     ⟨nat_lit 0xA7D5, nat_lit 0xA7DC⟩, ⟨nat_lit 0xA7F2, nat_lit 0xA801⟩,
     ⟨nat_lit 0xA803, nat_lit 0xA805⟩, ⟨nat_lit 0xA807, nat_lit 0xA80A⟩,
     ⟨nat_lit 0xA80C, nat_lit 0xA824⟩, ⟨nat_lit 0xA827, nat_lit 0xA82B⟩,
     ⟨nat_lit 0xA830, nat_lit 0xA839⟩, ⟨nat_lit 0xA840, nat_lit 0xA877⟩,
     ⟨nat_lit 0xA880, nat_lit 0xA8C3⟩, ⟨nat_lit 0xA8CE, nat_lit 0xA8D9⟩,
     ⟨nat_lit 0xA8F2, nat_lit 0xA8FE⟩, ⟨nat_lit 0xA900, nat_lit 0xA925⟩,
     ⟨nat_lit 0xA92E, nat_lit 0xA946⟩, ⟨nat_lit 0xA952, nat_lit 0xA952⟩,
     ⟨nat_lit 0xA95F, nat_lit 0xA97C⟩, ⟨nat_lit 0xA983, nat_lit 0xA9B2⟩,
     ⟨nat_lit 0xA9B4, nat_lit 0xA9B5⟩, ⟨nat_lit 0xA9BA, nat_lit 0xA9BB⟩,
     ⟨nat_lit 0xA9BE, nat_lit 0xA9BF⟩, ⟨nat_lit 0xA9C1, nat_lit 0xA9CD⟩,
     ⟨nat_lit 0xA9CF, nat_lit 0xA9D9⟩, ⟨nat_lit 0xA9DE, nat_lit 0xA9E4⟩,
     ⟨nat_lit 0xA9E6, nat_lit 0xA9FE⟩, ⟨nat_lit 0xAA00, nat_lit 0xAA28⟩,
     ⟨nat_lit 0xAA2F, nat_lit 0xAA30⟩, ⟨nat_lit 0xAA33, nat_lit 0xAA34⟩,
     ⟨nat_lit 0xAA40, nat_lit 0xAA42⟩, ⟨nat_lit 0xAA44, nat_lit 0xAA4B⟩,
     ⟨nat_lit 0xAA4D, nat_lit 0xAA4D⟩, ⟨nat_lit 0xAA50, nat_lit 0xAA59⟩,
     ⟨nat_lit 0xAA5C, nat_lit 0xAA7B⟩, ⟨nat_lit 0xAA7D, nat_lit 0xAAAF⟩,
     ⟨nat_lit 0xAAB1, nat_lit 0xAAB1⟩, ⟨nat_lit 0xAAB5, nat_lit 0xAAB6⟩,
     ⟨nat_lit 0xAAB9, nat_lit 0xAABD⟩, ⟨nat_lit 0xAAC0, nat_lit 0xAAC0⟩,
     ⟨nat_lit 0xAAC2, nat_lit 0xAAC2⟩, ⟨nat_lit 0xAADB, nat_lit 0xAAEB⟩,
     ⟨nat_lit 0xAAEE, nat_lit 0xAAF5⟩, ⟨nat_lit 0xAB01, nat_lit 0xAB06⟩,
     ⟨nat_lit 0xAB09, nat_lit 0xAB0E⟩, ⟨nat_lit 0xAB11, nat_lit 0xAB16⟩,
     ⟨nat_lit 0xAB20, nat_lit 0xAB26⟩, ⟨nat_lit 0xAB28, nat_lit 0xAB2E⟩,
     ⟨nat_lit 0xAB30, nat_lit 0xAB6B⟩, ⟨nat_lit 0xAB70, nat_lit 0xABE4⟩,
     ⟨nat_lit 0xABE6, nat_lit 0xABE7⟩, ⟨nat_lit 0xABE9, nat_lit 0xABEC⟩,
     ⟨nat_lit 0xABF0, nat_lit 0xABF9⟩, ⟨nat_lit 0xAC00, nat_lit 0xD7A3⟩,
     ⟨nat_lit 0xD7B0, nat_lit 0xD7C6⟩, ⟨nat_lit 0xD7CB, nat_lit 0xD7FB⟩,
     ⟨nat_lit 0xF900, nat_lit 0xFA6D⟩, ⟨nat_lit 0xFA70, nat_lit 0xFAD9⟩,
     ⟨nat_lit 0xFB00, nat_lit 0xFB06⟩, ⟨nat_lit 0xFB13, nat_lit 0xFB17⟩,
     ⟨nat_lit 0xFB1D, nat_lit 0xFB1D⟩, ⟨nat_lit 0xFB1F, nat_lit 0xFB36⟩,
     ⟨nat_lit 0xFB38, nat_lit 0xFB3C⟩, ⟨nat_lit 0xFB3E, nat_lit 0xFB3E⟩,
     ⟨nat_lit 0xFB40, nat_lit 0xFB41⟩, ⟨nat_lit 0xFB43, nat_lit 0xFB44⟩,
     ⟨nat_lit 0xFB46, nat_lit 0xFBC2⟩, ⟨nat_lit 0xFBD3, nat_lit 0xFD8F⟩,
     ⟨nat_lit 0xFD92, nat_lit 0xFDC7⟩, ⟨nat_lit 0xFDCF, nat_lit 0xFDCF⟩,
     ⟨nat_lit 0xFDF0, nat_lit 0xFDFF⟩, ⟨nat_lit 0xFE10, nat_lit 0xFE19⟩,
     ⟨nat_lit 0xFE30, nat_lit 0xFE52⟩, ⟨nat_lit 0xFE54, nat_lit 0xFE66⟩,
     ⟨nat_lit 0xFE68, nat_lit 0xFE6B⟩, ⟨nat_lit 0xFE70, nat_lit 0xFE74⟩,
     ⟨nat_lit 0xFE76, nat_lit 0xFEFC⟩, ⟨nat_lit 0xFF01, nat_lit 0xFF9D⟩,
     ⟨nat_lit 0xFFA0, nat_lit 0xFFBE⟩, ⟨nat_lit 0xFFC2, nat_lit 0xFFC7⟩,
     ⟨nat_lit 0xFFCA, nat_lit 0xFFCF⟩, ⟨nat_lit 0xFFD2, nat_lit 0xFFD7⟩,
     ⟨nat_lit 0xFFDA, nat_lit 0xFFDC⟩, ⟨nat_lit 0xFFE0, nat_lit 0xFFE6⟩,
     ⟨nat_lit 0xFFE8, nat_lit 0xFFEE⟩, ⟨nat_lit 0xFFFC, nat_lit 0xFFFD⟩,
     ⟨nat_lit 0x10000, nat_lit 0x1000B⟩, ⟨nat_lit 0x1000D, nat_lit 0x10026⟩,
     ⟨nat_lit 0x10028, nat_lit 0x1003A⟩, ⟨nat_lit 0x1003C, nat_lit 0x1003D⟩,
     ⟨nat_lit 0x1003F, nat_lit 0x1004D⟩, ⟨nat_lit 0x10050, nat_lit 0x1005D⟩,
     ⟨nat_lit 0x10080, nat_lit 0x100FA⟩, ⟨nat_lit 0x10100, nat_lit 0x10102⟩,
     ⟨nat_lit 0x10107, nat_lit 0x10133⟩, ⟨nat_lit 0x10137, nat_lit 0x1018E⟩,
     ⟨nat_lit 0x10190, nat_lit 0x1019C⟩, ⟨nat_lit 0x101A0, nat_lit 0x101A0⟩,
     ⟨nat_lit 0x101D0, nat_lit 0x101FC⟩, ⟨nat_lit 0x10280, nat_lit 0x1029C⟩,
     ⟨nat_lit 0x102A0, nat_lit 0x102D0⟩, ⟨nat_lit 0x102E1, nat_lit 0x102FB⟩,
     ⟨nat_lit 0x10300, nat_lit 0x10323⟩, ⟨nat_lit 0x1032D, nat_lit 0x1034A⟩,
     ⟨nat_lit 0x10350, nat_lit 0x10375⟩, ⟨nat_lit 0x10380, nat_lit 0x1039D⟩,
     ⟨nat_lit 0x1039F, nat_lit 0x103C3⟩, ⟨nat_lit 0x103C8, nat_lit 0x103D5⟩,
     ⟨nat_lit 0x10400, nat_lit 0x1049D⟩, ⟨nat_lit 0x104A0, nat_lit 0x104A9⟩,
     ⟨nat_lit 0x104B0, nat_lit 0x104D3⟩, ⟨nat_lit 0x104D8, nat_lit 0x104FB⟩,
     ⟨nat_lit 0x10500, nat_lit 0x10527⟩, ⟨nat_lit 0x10530, nat_lit 0x10563⟩,
     ⟨nat_lit 0x1056F, nat_lit 0x1057A⟩, ⟨nat_lit 0x1057C, nat_lit 0x1058A⟩,
     ⟨nat_lit 0x1058C, nat_lit 0x10592⟩, ⟨nat_lit 0x10594, nat_lit 0x10595⟩,
     ⟨nat_lit 0x10597, nat_lit 0x105A1⟩, ⟨nat_lit 0x105A3, nat_lit 0x105B1⟩,
     ⟨nat_lit 0x105B3, nat_lit 0x105B9⟩, ⟨nat_lit 0x105BB, nat_lit 0x105BC⟩,
     ⟨nat_lit 0x105C0, nat_lit 0x105F3⟩, ⟨nat_lit 0x10600, nat_lit 0x10736⟩,
     ⟨nat_lit 0x10740, nat_lit 0x10755⟩, ⟨nat_lit 0x10760, nat_lit 0x10767⟩,
     ⟨nat_lit 0x10780, nat_lit 0x10785⟩, ⟨nat_lit 0x10787, nat_lit 0x107B0⟩,
     ⟨nat_lit 0x107B2, nat_lit 0x107BA⟩, ⟨nat_lit 0x10800, nat_lit 0x10805⟩,
     ⟨nat_lit 0x10808, nat_lit 0x10808⟩, ⟨nat_lit 0x1080A, nat_lit 0x10835⟩,
     ⟨nat_lit 0x10837, nat_lit 0x10838⟩, ⟨nat_lit 0x1083C, nat_lit 0x1083C⟩,
     ⟨nat_lit 0x1083F, nat_lit 0x10855⟩, ⟨nat_lit 0x10857, nat_lit 0x1089E⟩,
     ⟨nat_lit 0x108A7, nat_lit 0x108AF⟩, ⟨nat_lit 0x108E0, nat_lit 0x108F2⟩,
     ⟨nat_lit 0x108F4, nat_lit 0x108F5⟩, ⟨nat_lit 0x108FB, nat_lit 0x1091B⟩,
     ⟨nat_lit 0x1091F, nat_lit 0x10939⟩, ⟨nat_lit 0x1093F, nat_lit 0x1093F⟩,
     ⟨nat_lit 0x10980, nat_lit 0x109B7⟩, ⟨nat_lit 0x109BC, nat_lit 0x109CF⟩,
     ⟨nat_lit 0x109D2, nat_lit 0x10A00⟩, ⟨nat_lit 0x10A10, nat_lit 0x10A13⟩,
     ⟨nat_lit 0x10A15, nat_lit 0x10A17⟩, ⟨nat_lit 0x10A19, nat_lit 0x10A35⟩,
     ⟨nat_lit 0x10A40, nat_lit 0x10A48⟩, ⟨nat_lit 0x10A50, nat_lit 0x10A58⟩,
     ⟨nat_lit 0x10A60, nat_lit 0x10A9F⟩, ⟨nat_lit 0x10AC0, nat_lit 0x10AE4⟩,
     ⟨nat_lit 0x10AEB, nat_lit 0x10AF6⟩, ⟨nat_lit 0x10B00, nat_lit 0x10B35⟩,
     ⟨nat_lit 0x10B39, nat_lit 0x10B55⟩, ⟨nat_lit 0x10B58, nat_lit 0x10B72⟩,
     ⟨nat_lit 0x10B78, nat_lit 0x10B91⟩, ⟨nat_lit 0x10B99, nat_lit 0x10B9C⟩,
     ⟨nat_lit 0x10BA9, nat_lit 0x10BAF⟩, ⟨nat_lit 0x10C00, nat_lit 0x10C48⟩,
     ⟨nat_lit 0x10C80, nat_lit 0x10CB2⟩, ⟨nat_lit 0x10CC0, nat_lit 0x10CF2⟩,
     ⟨nat_lit 0x10CFA, nat_lit 0x10D23⟩, ⟨nat_lit 0x10D30, nat_lit 0x10D39⟩,
     ⟨nat_lit 0x10D40, nat_lit 0x10D65⟩, ⟨nat_lit 0x10D6E, nat_lit 0x10D85⟩,
     ⟨nat_lit 0x10D8E, nat_lit 0x10D8F⟩, ⟨nat_lit 0x10E60, nat_lit 0x10E7E⟩,
     ⟨nat_lit 0x10E80, nat_lit 0x10EA9⟩, ⟨nat_lit 0x10EAD, nat_lit 0x10EAD⟩,
     ⟨nat_lit 0x10EB0, nat_lit 0x10EB1⟩, ⟨nat_lit 0x10EC2, nat_lit 0x10EC4⟩,
     ⟨nat_lit 0x10F00, nat_lit 0x10F27⟩, ⟨nat_lit 0x10F30, nat_lit 0x10F45⟩,
     ⟨nat_lit 0x10F51, nat_lit 0x10F59⟩, ⟨nat_lit 0x10F70, nat_lit 0x10F81⟩,
     ⟨nat_lit 0x10F86, nat_lit 0x10F89⟩, ⟨nat_lit 0x10FB0, nat_lit 0x10FCB⟩,
     ⟨nat_lit 0x10FE0, nat_lit 0x10FF6⟩, ⟨nat_lit 0x11000, nat_lit 0x11000⟩,
     ⟨nat_lit 0x11002, nat_lit 0x11037⟩, ⟨nat_lit 0x11047, nat_lit 0x1104D⟩,
     ⟨nat_lit 0x11052, nat_lit 0x1106F⟩, ⟨nat_lit 0x11071, nat_lit 0x11072⟩,
     ⟨nat_lit 0x11075, nat_lit 0x11075⟩, ⟨nat_lit 0x11082, nat_lit 0x110B2⟩,
     ⟨nat_lit 0x110B7, nat_lit 0x110B8⟩, ⟨nat_lit 0x110BB, nat_lit 0x110BC⟩,
     ⟨nat_lit 0x110BE, nat_lit 0x110C1⟩, ⟨nat_lit 0x110D0, nat_lit 0x110E8⟩,
     ⟨nat_lit 0x110F0, nat_lit 0x110F9⟩, ⟨nat_lit 0x11103, nat_lit 0x11126⟩,
     ⟨nat_lit 0x1112C, nat_lit 0x1112C⟩, ⟨nat_lit 0x11136, nat_lit 0x11147⟩,
     ⟨nat_lit 0x11150, nat_lit 0x11172⟩, ⟨nat_lit 0x11174, nat_lit 0x11176⟩,
     ⟨nat_lit 0x11182, nat_lit 0x111B5⟩, ⟨nat_lit 0x111BF, nat_lit 0x111BF⟩,
     ⟨nat_lit 0x111C1, nat_lit 0x111C8⟩, ⟨nat_lit 0x111CD, nat_lit 0x111CE⟩,
     ⟨nat_lit 0x111D0, nat_lit 0x111DF⟩, ⟨nat_lit 0x111E1, nat_lit 0x111F4⟩,
     ⟨nat_lit 0x11200, nat_lit 0x11211⟩, ⟨nat_lit 0x11213, nat_lit 0x1122E⟩,
     ⟨nat_lit 0x11232, nat_lit 0x11233⟩, ⟨nat_lit 0x11238, nat_lit 0x1123D⟩,
     ⟨nat_lit 0x1123F, nat_lit 0x11240⟩, ⟨nat_lit 0x11280, nat_lit 0x11286⟩,
     ⟨nat_lit 0x11288, nat_lit 0x11288⟩, ⟨nat_lit 0x1128A, nat_lit 0x1128D⟩,
     ⟨nat_lit 0x1128F, nat_lit 0x1129D⟩, ⟨nat_lit 0x1129F, nat_lit 0x112A9⟩,
     ⟨nat_lit 0x112B0, nat_lit 0x112DE⟩, ⟨nat_lit 0x112E0, nat_lit 0x112E2⟩,
     ⟨nat_lit 0x112F0, nat_lit 0x112F9⟩, ⟨nat_lit 0x11302, nat_lit 0x11303⟩,
     ⟨nat_lit 0x11305, nat_lit 0x1130C⟩, ⟨nat_lit 0x1130F, nat_lit 0x11310⟩,
     ⟨nat_lit 0x11313, nat_lit 0x11328⟩, ⟨nat_lit 0x1132A, nat_lit 0x11330⟩,
     ⟨nat_lit 0x11332, nat_lit 0x11333⟩, ⟨nat_lit 0x11335, nat_lit 0x11339⟩,
     ⟨nat_lit 0x1133D, nat_lit 0x1133D⟩, ⟨nat_lit 0x1133F, nat_lit 0x1133F⟩,
     ⟨nat_lit 0x11341, nat_lit 0x11344⟩, ⟨nat_lit 0x11347, nat_lit 0x11348⟩,
     ⟨nat_lit 0x1134B, nat_lit 0x1134C⟩, ⟨nat_lit 0x11350, nat_lit 0x11350⟩,
     ⟨nat_lit 0x1135D, nat_lit 0x11363⟩, ⟨nat_lit 0x11380, nat_lit 0x11389⟩,
     ⟨nat_lit 0x1138B, nat_lit 0x1138B⟩, ⟨nat_lit 0x1138E, nat_lit 0x1138E⟩,
     ⟨nat_lit 0x11390, nat_lit 0x113B5⟩, ⟨nat_lit 0x113B7, nat_lit 0x113B7⟩,
     ⟨nat_lit 0x113B9, nat_lit 0x113BA⟩, ⟨nat_lit 0x113CA, nat_lit 0x113CA⟩,
     ⟨nat_lit 0x113CC, nat_lit 0x113CD⟩, ⟨nat_lit 0x113D1, nat_lit 0x113D1⟩,
     ⟨nat_lit 0x113D3, nat_lit 0x113D5⟩, ⟨nat_lit 0x113D7, nat_lit 0x113D8⟩,
     ⟨nat_lit 0x11400, nat_lit 0x11437⟩, ⟨nat_lit 0x11440, nat_lit 0x11441⟩,
     ⟨nat_lit 0x11445, nat_lit 0x11445⟩, ⟨nat_lit 0x11447, nat_lit 0x1145B⟩,
     ⟨nat_lit 0x1145D, nat_lit 0x1145D⟩, ⟨nat_lit 0x1145F, nat_lit 0x11461⟩,
     ⟨nat_lit 0x11480, nat_lit 0x114AF⟩, ⟨nat_lit 0x114B1, nat_lit 0x114B2⟩,
     ⟨nat_lit 0x114B9, nat_lit 0x114B9⟩, ⟨nat_lit 0x114BB, nat_lit 0x114BC⟩,
     ⟨nat_lit 0x114BE, nat_lit 0x114BE⟩, ⟨nat_lit 0x114C1, nat_lit 0x114C1⟩,
     ⟨nat_lit 0x114C4, nat_lit 0x114C7⟩, ⟨nat_lit 0x114D0, nat_lit 0x114D9⟩,
     ⟨nat_lit 0x11580, nat_lit 0x115AE⟩, ⟨nat_lit 0x115B0, nat_lit 0x115B1⟩,
     ⟨nat_lit 0x115B8, nat_lit 0x115BB⟩, ⟨nat_lit 0x115BE, nat_lit 0x115BE⟩,
     ⟨nat_lit 0x115C1, nat_lit 0x115DB⟩, ⟨nat_lit 0x11600, nat_lit 0x11632⟩,
     ⟨nat_lit 0x1163B, nat_lit 0x1163C⟩, ⟨nat_lit 0x1163E, nat_lit 0x1163E⟩,
     ⟨nat_lit 0x11641, nat_lit 0x11644⟩, ⟨nat_lit 0x11650, nat_lit 0x11659⟩,
     ⟨nat_lit 0x11660, nat_lit 0x1166C⟩, ⟨nat_lit 0x11680, nat_lit 0x116AA⟩,
     ⟨nat_lit 0x116AC, nat_lit 0x116AC⟩, ⟨nat_lit 0x116AE, nat_lit 0x116AF⟩,
     ⟨nat_lit 0x116B8, nat_lit 0x116B9⟩, ⟨nat_lit 0x116C0, nat_lit 0x116C9⟩,
     ⟨nat_lit 0x116D0, nat_lit 0x116E3⟩, ⟨nat_lit 0x11700, nat_lit 0x1171A⟩,
     ⟨nat_lit 0x1171E, nat_lit 0x1171E⟩, ⟨nat_lit 0x11720, nat_lit 0x11721⟩,
     ⟨nat_lit 0x11726, nat_lit 0x11726⟩, ⟨nat_lit 0x11730, nat_lit 0x11746⟩,
     ⟨nat_lit 0x11800, nat_lit 0x1182E⟩, ⟨nat_lit 0x11838, nat_lit 0x11838⟩,
     ⟨nat_lit 0x1183B, nat_lit 0x1183B⟩, ⟨nat_lit 0x118A0, nat_lit 0x118F2⟩,
     ⟨nat_lit 0x118FF, nat_lit 0x11906⟩, ⟨nat_lit 0x11909, nat_lit 0x11909⟩,
     ⟨nat_lit 0x1190C, nat_lit 0x11913⟩, ⟨nat_lit 0x11915, nat_lit 0x11916⟩,
     ⟨nat_lit 0x11918, nat_lit 0x1192F⟩, ⟨nat_lit 0x11931, nat_lit 0x11935⟩,
     ⟨nat_lit 0x11937, nat_lit 0x11938⟩, ⟨nat_lit 0x1193F, nat_lit 0x11942⟩,
     ⟨nat_lit 0x11944, nat_lit 0x11946⟩, ⟨nat_lit 0x11950, nat_lit 0x11959⟩,
     ⟨nat_lit 0x119A0, nat_lit 0x119A7⟩, ⟨nat_lit 0x119AA, nat_lit 0x119D3⟩,
     ⟨nat_lit 0x119DC, nat_lit 0x119DF⟩, ⟨nat_lit 0x119E1, nat_lit 0x119E4⟩,
     ⟨nat_lit 0x11A00, nat_lit 0x11A00⟩, ⟨nat_lit 0x11A0B, nat_lit 0x11A32⟩,
     ⟨nat_lit 0x11A39, nat_lit 0x11A3A⟩, ⟨nat_lit 0x11A3F, nat_lit 0x11A46⟩,
     ⟨nat_lit 0x11A50, nat_lit 0x11A50⟩, ⟨nat_lit 0x11A57, nat_lit 0x11A58⟩,
     ⟨nat_lit 0x11A5C, nat_lit 0x11A89⟩, ⟨nat_lit 0x11A97, nat_lit 0x11A97⟩,
     ⟨nat_lit 0x11A9A, nat_lit 0x11AA2⟩, ⟨nat_lit 0x11AB0, nat_lit 0x11AF8⟩,
     ⟨nat_lit 0x11B00, nat_lit 0x11B09⟩, ⟨nat_lit 0x11BC0, nat_lit 0x11BE1⟩,
     ⟨nat_lit 0x11BF0, nat_lit 0x11BF9⟩, ⟨nat_lit 0x11C00, nat_lit 0x11C08⟩,
     ⟨nat_lit 0x11C0A, nat_lit 0x11C2F⟩, ⟨nat_lit 0x11C3E, nat_lit 0x11C3E⟩,
     ⟨nat_lit 0x11C40, nat_lit 0x11C45⟩, ⟨nat_lit 0x11C50, nat_lit 0x11C6C⟩,
     ⟨nat_lit 0x11C70, nat_lit 0x11C8F⟩, ⟨nat_lit 0x11CA9, nat_lit 0x11CA9⟩,
     ⟨nat_lit 0x11CB1, nat_lit 0x11CB1⟩, ⟨nat_lit 0x11CB4, nat_lit 0x11CB4⟩,
     ⟨nat_lit 0x11D00, nat_lit 0x11D06⟩, ⟨nat_lit 0x11D08, nat_lit 0x11D09⟩,
     ⟨nat_lit 0x11D0B, nat_lit 0x11D30⟩, ⟨nat_lit 0x11D46, nat_lit 0x11D46⟩,
     ⟨nat_lit 0x11D50, nat_lit 0x11D59⟩, ⟨nat_lit 0x11D60, nat_lit 0x11D65⟩,
     ⟨nat_lit 0x11D67, nat_lit 0x11D68⟩, ⟨nat_lit 0x11D6A, nat_lit 0x11D8E⟩,
     ⟨nat_lit 0x11D93, nat_lit 0x11D94⟩, ⟨nat_lit 0x11D96, nat_lit 0x11D96⟩,
     ⟨nat_lit 0x11D98, nat_lit 0x11D98⟩, ⟨nat_lit 0x11DA0, nat_lit 0x11DA9⟩,
     ⟨nat_lit 0x11EE0, nat_lit 0x11EF2⟩, ⟨nat_lit 0x11EF5, nat_lit 0x11EF8⟩,
     ⟨nat_lit 0x11F02, nat_lit 0x11F10⟩, ⟨nat_lit 0x11F12, nat_lit 0x11F35⟩,
     ⟨nat_lit 0x11F3E, nat_lit 0x11F3F⟩, ⟨nat_lit 0x11F43, nat_lit 0x11F59⟩,
     ⟨nat_lit 0x11FB0, nat_lit 0x11FB0⟩, ⟨nat_lit 0x11FC0, nat_lit 0x11FF1⟩,
     ⟨nat_lit 0x11FFF, nat_lit 0x12399⟩, ⟨nat_lit 0x12400, nat_lit 0x1246E⟩,
     ⟨nat_lit 0x12470, nat_lit 0x12474⟩, ⟨nat_lit 0x12480, nat_lit 0x12543⟩,
     ⟨nat_lit 0x12F90, nat_lit 0x12FF2⟩, ⟨nat_lit 0x13000, nat_lit 0x1342F⟩,
     ⟨nat_lit 0x13441, nat_lit 0x13446⟩, ⟨nat_lit 0x13460, nat_lit 0x143FA⟩,
     ⟨nat_lit 0x14400, nat_lit 0x14646⟩, ⟨nat_lit 0x16100, nat_lit 0x1611D⟩,
     ⟨nat_lit 0x1612A, nat_lit 0x1612C⟩, ⟨nat_lit 0x16130, nat_lit 0x16139⟩,
     ⟨nat_lit 0x16800, nat_lit 0x16A38⟩, ⟨nat_lit 0x16A40, nat_lit 0x16A5E⟩,
     ⟨nat_lit 0x16A60, nat_lit 0x16A69⟩, ⟨nat_lit 0x16A6E, nat_lit 0x16ABE⟩,
     ⟨nat_lit 0x16AC0, nat_lit 0x16AC9⟩, ⟨nat_lit 0x16AD0, nat_lit 0x16AED⟩,
     ⟨nat_lit 0x16AF5, nat_lit 0x16AF5⟩, ⟨nat_lit 0x16B00, nat_lit 0x16B2F⟩,
     ⟨nat_lit 0x16B37, nat_lit 0x16B45⟩, ⟨nat_lit 0x16B50, nat_lit 0x16B59⟩,
     ⟨nat_lit 0x16B5B, nat_lit 0x16B61⟩, ⟨nat_lit 0x16B63, nat_lit 0x16B77⟩,
     ⟨nat_lit 0x16B7D, nat_lit 0x16B8F⟩, ⟨nat_lit 0x16D40, nat_lit 0x16D79⟩,
     ⟨nat_lit 0x16E40, nat_lit 0x16E9A⟩, ⟨nat_lit 0x16F00, nat_lit 0x16F4A⟩,
     ⟨nat_lit 0x16F50, nat_lit 0x16F87⟩, ⟨nat_lit 0x16F93, nat_lit 0x16F9F⟩,
     ⟨nat_lit 0x16FE0, nat_lit 0x16FE3⟩, ⟨nat_lit 0x17000, nat_lit 0x187F7⟩,
     ⟨nat_lit 0x18800, nat_lit 0x18CD5⟩, ⟨nat_lit 0x18CFF, nat_lit 0x18D08⟩,
     ⟨nat_lit 0x1AFF0, nat_lit 0x1AFF3⟩, ⟨nat_lit 0x1AFF5, nat_lit 0x1AFFB⟩,
     ⟨nat_lit 0x1AFFD, nat_lit 0x1AFFE⟩, ⟨nat_lit 0x1B000, nat_lit 0x1B122⟩,
     ⟨nat_lit 0x1B132, nat_lit 0x1B132⟩, ⟨nat_lit 0x1B150, nat_lit 0x1B152⟩,
     ⟨nat_lit 0x1B155, nat_lit 0x1B155⟩, ⟨nat_lit 0x1B164, nat_lit 0x1B167⟩,
     ⟨nat_lit 0x1B170, nat_lit 0x1B2FB⟩, ⟨nat_lit 0x1BC00, nat_lit 0x1BC6A⟩,
     ⟨nat_lit 0x1BC70, nat_lit 0x1BC7C⟩, ⟨nat_lit 0x1BC80, nat_lit 0x1BC88⟩,
     ⟨nat_lit 0x1BC90, nat_lit 0x1BC99⟩, ⟨nat_lit 0x1BC9C, nat_lit 0x1BC9C⟩,
     ⟨nat_lit 0x1BC9F, nat_lit 0x1BC9F⟩, ⟨nat_lit 0x1CC00, nat_lit 0x1CCF9⟩,
     ⟨nat_lit 0x1CD00, nat_lit 0x1CEB3⟩, ⟨nat_lit 0x1CF50, nat_lit 0x1CFC3⟩,
     ⟨nat_lit 0x1D000, nat_lit 0x1D0F5⟩, ⟨nat_lit 0x1D100, nat_lit 0x1D126⟩,
     ⟨nat_lit 0x1D129, nat_lit 0x1D164⟩, ⟨nat_lit 0x1D16A, nat_lit 0x1D16C⟩,
     ⟨nat_lit 0x1D183, nat_lit 0x1D184⟩, ⟨nat_lit 0x1D18C, nat_lit 0x1D1A9⟩,
     ⟨nat_lit 0x1D1AE, nat_lit 0x1D1EA⟩, ⟨nat_lit 0x1D200, nat_lit 0x1D241⟩,
     ⟨nat_lit 0x1D245, nat_lit 0x1D245⟩, ⟨nat_lit 0x1D2C0, nat_lit 0x1D2D3⟩,
     ⟨nat_lit 0x1D2E0, nat_lit 0x1D2F3⟩, ⟨nat_lit 0x1D300, nat_lit 0x1D356⟩,
     ⟨nat_lit 0x1D360, nat_lit 0x1D378⟩, ⟨nat_lit 0x1D400, nat_lit 0x1D454⟩,
     ⟨nat_lit 0x1D456, nat_lit 0x1D49C⟩, ⟨nat_lit 0x1D49E, nat_lit 0x1D49F⟩,
     ⟨nat_lit 0x1D4A2, nat_lit 0x1D4A2⟩, ⟨nat_lit 0x1D4A5, nat_lit 0x1D4A6⟩,
     ⟨nat_lit 0x1D4A9, nat_lit 0x1D4AC⟩, ⟨nat_lit 0x1D4AE, nat_lit 0x1D4B9⟩,
     ⟨nat_lit 0x1D4BB, nat_lit 0x1D4BB⟩, ⟨nat_lit 0x1D4BD, nat_lit 0x1D4C3⟩,
     ⟨nat_lit 0x1D4C5, nat_lit 0x1D505⟩, ⟨nat_lit 0x1D507, nat_lit 0x1D50A⟩,
     ⟨nat_lit 0x1D50D, nat_lit 0x1D514⟩, ⟨nat_lit 0x1D516, nat_lit 0x1D51C⟩,
     ⟨nat_lit 0x1D51E, nat_lit 0x1D539⟩, ⟨nat_lit 0x1D53B, nat_lit 0x1D53E⟩,
     ⟨nat_lit 0x1D540, nat_lit 0x1D544⟩, ⟨nat_lit 0x1D546, nat_lit 0x1D546⟩,
     ⟨nat_lit 0x1D54A, nat_lit 0x1D550⟩, ⟨nat_lit 0x1D552, nat_lit 0x1D6A5⟩,
     ⟨nat_lit 0x1D6A8, nat_lit 0x1D7CB⟩, ⟨nat_lit 0x1D7CE, nat_lit 0x1D9FF⟩,
     ⟨nat_lit 0x1DA37, nat_lit 0x1DA3A⟩, ⟨nat_lit 0x1DA6D, nat_lit 0x1DA74⟩,
     ⟨nat_lit 0x1DA76, nat_lit 0x1DA83⟩, ⟨nat_lit 0x1DA85, nat_lit 0x1DA8B⟩,
     ⟨nat_lit 0x1DF00, nat_lit 0x1DF1E⟩, ⟨nat_lit 0x1DF25, nat_lit 0x1DF2A⟩,
     ⟨nat_lit 0x1E030, nat_lit 0x1E06D⟩, ⟨nat_lit 0x1E100, nat_lit 0x1E12C⟩,
     ⟨nat_lit 0x1E137, nat_lit 0x1E13D⟩, ⟨nat_lit 0x1E140, nat_lit 0x1E149⟩,
     ⟨nat_lit 0x1E14E, nat_lit 0x1E14F⟩, ⟨nat_lit 0x1E290, nat_lit 0x1E2AD⟩,
     ⟨nat_lit 0x1E2C0, nat_lit 0x1E2EB⟩, ⟨nat_lit 0x1E2F0, nat_lit 0x1E2F9⟩,
     ⟨nat_lit 0x1E2FF, nat_lit 0x1E2FF⟩, ⟨nat_lit 0x1E4D0, nat_lit 0x1E4EB⟩,
     ⟨nat_lit 0x1E4F0, nat_lit 0x1E4F9⟩, ⟨nat_lit 0x1E5D0, nat_lit 0x1E5ED⟩,
     ⟨nat_lit 0x1E5F0, nat_lit 0x1E5FA⟩, ⟨nat_lit 0x1E5FF, nat_lit 0x1E5FF⟩,
     ⟨nat_lit 0x1E7E0, nat_lit 0x1E7E6⟩, ⟨nat_lit 0x1E7E8, nat_lit 0x1E7EB⟩,
     ⟨nat_lit 0x1E7ED, nat_lit 0x1E7EE⟩, ⟨nat_lit 0x1E7F0, nat_lit 0x1E7FE⟩,
     ⟨nat_lit 0x1E800, nat_lit 0x1E8C4⟩, ⟨nat_lit 0x1E8C7, nat_lit 0x1E8CF⟩,
     ⟨nat_lit 0x1E900, nat_lit 0x1E943⟩, ⟨nat_lit 0x1E94B, nat_lit 0x1E94B⟩,
     ⟨nat_lit 0x1E950, nat_lit 0x1E959⟩, ⟨nat_lit 0x1E95E, nat_lit 0x1E95F⟩,
     ⟨nat_lit 0x1EC71, nat_lit 0x1ECB4⟩, ⟨nat_lit 0x1ED01, nat_lit 0x1ED3D⟩,
     ⟨nat_lit 0x1EE00, nat_lit 0x1EE03⟩, ⟨nat_lit 0x1EE05, nat_lit 0x1EE1F⟩,
     ⟨nat_lit 0x1EE21, nat_lit 0x1EE22⟩, ⟨nat_lit 0x1EE24, nat_lit 0x1EE24⟩,
     ⟨nat_lit 0x1EE27, nat_lit 0x1EE27⟩, ⟨nat_lit 0x1EE29, nat_lit 0x1EE32⟩,
     ⟨nat_lit 0x1EE34, nat_lit 0x1EE37⟩, ⟨nat_lit 0x1EE39, nat_lit 0x1EE39⟩,
     ⟨nat_lit 0x1EE3B, nat_lit 0x1EE3B⟩, ⟨nat_lit 0x1EE42, nat_lit 0x1EE42⟩,
     ⟨nat_lit 0x1EE47, nat_lit 0x1EE47⟩, ⟨nat_lit 0x1EE49, nat_lit 0x1EE49⟩,
     ⟨nat_lit 0x1EE4B, nat_lit 0x1EE4B⟩, ⟨nat_lit 0x1EE4D, nat_lit 0x1EE4F⟩,
     ⟨nat_lit 0x1EE51, nat_lit 0x1EE52⟩, ⟨nat_lit 0x1EE54, nat_lit 0x1EE54⟩,
     ⟨nat_lit 0x1EE57, nat_lit 0x1EE57⟩, ⟨nat_lit 0x1EE59, nat_lit 0x1EE59⟩,
     ⟨nat_lit 0x1EE5B, nat_lit 0x1EE5B⟩, ⟨nat_lit 0x1EE5D, nat_lit 0x1EE5D⟩,
     ⟨nat_lit 0x1EE5F, nat_lit 0x1EE5F⟩, ⟨nat_lit 0x1EE61, nat_lit 0x1EE62⟩,
     ⟨nat_lit 0x1EE64, nat_lit 0x1EE64⟩, ⟨nat_lit 0x1EE67, nat_lit 0x1EE6A⟩,
     ⟨nat_lit 0x1EE6C, nat_lit 0x1EE72⟩, ⟨nat_lit 0x1EE74, nat_lit 0x1EE77⟩,
     ⟨nat_lit 0x1EE79, nat_lit 0x1EE7C⟩, ⟨nat_lit 0x1EE7E, nat_lit 0x1EE7E⟩,
     ⟨nat_lit 0x1EE80, nat_lit 0x1EE89⟩, ⟨nat_lit 0x1EE8B, nat_lit 0x1EE9B⟩,
     ⟨nat_lit 0x1EEA1, nat_lit 0x1EEA3⟩, ⟨nat_lit 0x1EEA5, nat_lit 0x1EEA9⟩,
     ⟨nat_lit 0x1EEAB, nat_lit 0x1EEBB⟩, ⟨nat_lit 0x1EEF0, nat_lit 0x1EEF1⟩,
     ⟨nat_lit 0x1F000, nat_lit 0x1F02B⟩, ⟨nat_lit 0x1F030, nat_lit 0x1F093⟩,
     ⟨nat_lit 0x1F0A0, nat_lit 0x1F0AE⟩, ⟨nat_lit 0x1F0B1, nat_lit 0x1F0BF⟩,
     ⟨nat_lit 0x1F0C1, nat_lit 0x1F0CF⟩, ⟨nat_lit 0x1F0D1, nat_lit 0x1F0F5⟩,
     ⟨nat_lit 0x1F100, nat_lit 0x1F1AD⟩, ⟨nat_lit 0x1F1E6, nat_lit 0x1F202⟩,
     ⟨nat_lit 0x1F210, nat_lit 0x1F23B⟩, ⟨nat_lit 0x1F240, nat_lit 0x1F248⟩,
     ⟨nat_lit 0x1F250, nat_lit 0x1F251⟩, ⟨nat_lit 0x1F260, nat_lit 0x1F265⟩,
     ⟨nat_lit 0x1F300, nat_lit 0x1F6D7⟩, ⟨nat_lit 0x1F6DC, nat_lit 0x1F6EC⟩,
     ⟨nat_lit 0x1F6F0, nat_lit 0x1F6FC⟩, ⟨nat_lit 0x1F700, nat_lit 0x1F776⟩,
     ⟨nat_lit 0x1F77B, nat_lit 0x1F7D9⟩, ⟨nat_lit 0x1F7E0, nat_lit 0x1F7EB⟩,
     ⟨nat_lit 0x1F7F0, nat_lit 0x1F7F0⟩, ⟨nat_lit 0x1F800, nat_lit 0x1F80B⟩,
     ⟨nat_lit 0x1F810, nat_lit 0x1F847⟩, ⟨nat_lit 0x1F850, nat_lit 0x1F859⟩,
     ⟨nat_lit 0x1F860, nat_lit 0x1F887⟩, ⟨nat_lit 0x1F890, nat_lit 0x1F8AD⟩,
     ⟨nat_lit 0x1F8B0, nat_lit 0x1F8BB⟩, ⟨nat_lit 0x1F8C0, nat_lit 0x1F8C1⟩,
     ⟨nat_lit 0x1F900, nat_lit 0x1FA53⟩, ⟨nat_lit 0x1FA60, nat_lit 0x1FA6D⟩,
     ⟨nat_lit 0x1FA70, nat_lit 0x1FA7C⟩, ⟨nat_lit 0x1FA80, nat_lit 0x1FA89⟩,
     ⟨nat_lit 0x1FA8F, nat_lit 0x1FAC6⟩, ⟨nat_lit 0x1FACE, nat_lit 0x1FADC⟩,
     ⟨nat_lit 0x1FADF, nat_lit 0x1FAE9⟩, ⟨nat_lit 0x1FAF0, nat_lit 0x1FAF8⟩,
     ⟨nat_lit 0x1FB00, nat_lit 0x1FB92⟩, ⟨nat_lit 0x1FB94, nat_lit 0x1FBF9⟩,
     ⟨nat_lit 0x20000, nat_lit 0x2A6DF⟩, ⟨nat_lit 0x2A700, nat_lit 0x2B739⟩,
     ⟨nat_lit 0x2B740, nat_lit 0x2B81D⟩, ⟨nat_lit 0x2B820, nat_lit 0x2CEA1⟩,
     ⟨nat_lit 0x2CEB0, nat_lit 0x2EBE0⟩, ⟨nat_lit 0x2EBF0, nat_lit 0x2EE5D⟩,
     ⟨nat_lit 0x2F800, nat_lit 0x2FA1D⟩, ⟨nat_lit 0x30000, nat_lit 0x3134A⟩,
     ⟨nat_lit 0x31350, nat_lit 0x323AF⟩]),
  ("Grapheme_Extend",
    [⟨nat_lit 0x300, nat_lit 0x36F⟩, ⟨nat_lit 0x483, nat_lit 0x489⟩,
     ⟨nat_lit 0x591, nat_lit 0x5BD⟩, ⟨nat_lit 0x5BF, nat_lit 0x5BF⟩,
     ⟨nat_lit 0x5C1, nat_lit 0x5C2⟩, ⟨nat_lit 0x5C4, nat_lit 0x5C5⟩,
     ⟨nat_lit 0x5C7, nat_lit 0x5C7⟩, ⟨nat_lit 0x610, nat_lit 0x61A⟩,
     ⟨nat_lit 0x64B, nat_lit 0x65F⟩, ⟨nat_lit 0x670, nat_lit 0x670⟩,
     ⟨nat_lit 0x6D6, nat_lit 0x6DC⟩, ⟨nat_lit 0x6DF, nat_lit 0x6E4⟩,
     ⟨nat_lit 0x6E7, nat_lit 0x6E8⟩, ⟨nat_lit 0x6EA, nat_lit 0x6ED⟩,
     ⟨nat_lit 0x711, nat_lit 0x711⟩, ⟨nat_lit 0x730, nat_lit 0x74A⟩,
     ⟨nat_lit 0x7A6, nat_lit 0x7B0⟩, ⟨nat_lit 0x7EB, nat_lit 0x7F3⟩,
     ⟨nat_lit 0x7FD, nat_lit 0x7FD⟩, ⟨nat_lit 0x816, nat_lit 0x819⟩,
     ⟨nat_lit 0x81B, nat_lit 0x823⟩, ⟨nat_lit 0x825, nat_lit 0x827⟩,
     ⟨nat_lit 0x829, nat_lit 0x82D⟩, ⟨nat_lit 0x859, nat_lit 0x85B⟩,
     ⟨nat_lit 0x897, nat_lit 0x89F⟩, ⟨nat_lit 0x8CA, nat_lit 0x8E1⟩,
     ⟨nat_lit 0x8E3, nat_lit 0x902⟩, ⟨nat_lit 0x93A, nat_lit 0x93A⟩,
     ⟨nat_lit 0x93C, nat_lit 0x93C⟩, ⟨nat_lit 0x941, nat_lit 0x948⟩,
     ⟨nat_lit 0x94D, nat_lit 0x94D⟩, ⟨nat_lit 0x951, nat_lit 0x957⟩,
     ⟨nat_lit 0x962, nat_lit 0x963⟩, ⟨nat_lit 0x981, nat_lit 0x981⟩,
     ⟨nat_lit 0x9BC, nat_lit 0x9BC⟩, ⟨nat_lit 0x9BE, nat_lit 0x9BE⟩,
     ⟨nat_lit 0x9C1, nat_lit 0x9C4⟩, ⟨nat_lit 0x9CD, nat_lit 0x9CD⟩,
     ⟨nat_lit 0x9D7, nat_lit 0x9D7⟩, ⟨nat_lit 0x9E2, nat_lit 0x9E3⟩,
     ⟨nat_lit 0x9FE, nat_lit 0x9FE⟩, ⟨nat_lit 0xA01, nat_lit 0xA02⟩,
     ⟨nat_lit 0xA3C, nat_lit 0xA3C⟩, ⟨nat_lit 0xA41, nat_lit 0xA42⟩,
     ⟨nat_lit 0xA47, nat_lit 0xA48⟩, ⟨nat_lit 0xA4B, nat_lit 0xA4D⟩,
     ⟨nat_lit 0xA51, nat_lit 0xA51⟩, ⟨nat_lit 0xA70, nat_lit 0xA71⟩,
     ⟨nat_lit 0xA75, nat_lit 0xA75⟩, ⟨nat_lit 0xA81, nat_lit 0xA82⟩,
     ⟨nat_lit 0xABC, nat_lit 0xABC⟩, ⟨nat_lit 0xAC1, nat_lit 0xAC5⟩,
     ⟨nat_lit 0xAC7, nat_lit 0xAC8⟩, ⟨nat_lit 0xACD, nat_lit 0xACD⟩,
     ⟨nat_lit 0xAE2, nat_lit 0xAE3⟩, ⟨nat_lit 0xAFA, nat_lit 0xAFF⟩,
     ⟨nat_lit 0xB01, nat_lit 0xB01⟩, ⟨nat_lit 0xB3C, nat_lit 0xB3C⟩,
     ⟨nat_lit 0xB3E, nat_lit 0xB3F⟩, ⟨nat_lit 0xB41, nat_lit 0xB44⟩,
     ⟨nat_lit 0xB4D, nat_lit 0xB4D⟩, ⟨nat_lit 0xB55, nat_lit 0xB57⟩,
     ⟨nat_lit 0xB62, nat_lit 0xB63⟩, ⟨nat_lit 0xB82, nat_lit 0xB82⟩,
     ⟨nat_lit 0xBBE, nat_lit 0xBBE⟩, ⟨nat_lit 0xBC0, nat_lit 0xBC0⟩,
     ⟨nat_lit 0xBCD, nat_lit 0xBCD⟩, ⟨nat_lit 0xBD7, nat_lit 0xBD7⟩,
     ⟨nat_lit 0xC00, nat_lit 0xC00⟩, ⟨nat_lit 0xC04, nat_lit 0xC04⟩,
     ⟨nat_lit 0xC3C, nat_lit 0xC3C⟩, ⟨nat_lit 0xC3E, nat_lit 0xC40⟩,
     ⟨nat_lit 0xC46, nat_lit 0xC48⟩, ⟨nat_lit 0xC4A, nat_lit 0xC4D⟩,
     ⟨nat_lit 0xC55, nat_lit 0xC56⟩, ⟨nat_lit 0xC62, nat_lit 0xC63⟩,
     ⟨nat_lit 0xC81, nat_lit 0xC81⟩, ⟨nat_lit 0xCBC, nat_lit 0xCBC⟩,
     ⟨nat_lit 0xCBF, nat_lit 0xCC0⟩, ⟨nat_lit 0xCC2, nat_lit 0xCC2⟩,
     ⟨nat_lit 0xCC6, nat_lit 0xCC8⟩, ⟨nat_lit 0xCCA, nat_lit 0xCCD⟩,
     ⟨nat_lit 0xCD5, nat_lit 0xCD6⟩, ⟨nat_lit 0xCE2, nat_lit 0xCE3⟩,
     ⟨nat_lit 0xD00, nat_lit 0xD01⟩, ⟨nat_lit 0xD3B, nat_lit 0xD3C⟩,
     ⟨nat_lit 0xD3E, nat_lit 0xD3E⟩, ⟨nat_lit 0xD41, nat_lit 0xD44⟩,
     ⟨nat_lit 0xD4D, nat_lit 0xD4D⟩, ⟨nat_lit 0xD57, nat_lit 0xD57⟩,
     ⟨nat_lit 0xD62, nat_lit 0xD63⟩, ⟨nat_lit 0xD81, nat_lit 0xD81⟩,
     ⟨nat_lit 0xDCA, nat_lit 0xDCA⟩, ⟨nat_lit 0xDCF, nat_lit 0xDCF⟩,
     ⟨nat_lit 0xDD2, nat_lit 0xDD4⟩, ⟨nat_lit 0xDD6, nat_lit 0xDD6⟩,
     ⟨nat_lit 0xDDF, nat_lit 0xDDF⟩, ⟨nat_lit 0xE31, nat_lit 0xE31⟩,
     ⟨nat_lit 0xE34, nat_lit 0xE3A⟩, ⟨nat_lit 0xE47, nat_lit 0xE4E⟩,
     ⟨nat_lit 0xEB1, nat_lit 0xEB1⟩, ⟨nat_lit 0xEB4, nat_lit 0xEBC⟩,
     ⟨nat_lit 0xEC8, nat_lit 0xECE⟩, ⟨nat_lit 0xF18, nat_lit 0xF19⟩,
     ⟨nat_lit 0xF35, nat_lit 0xF35⟩, ⟨nat_lit 0xF37, nat_lit 0xF37⟩,
     ⟨nat_lit 0xF39, nat_lit 0xF39⟩, ⟨nat_lit 0xF71, nat_lit 0xF7E⟩,
     ⟨nat_lit 0xF80, nat_lit 0xF84⟩, ⟨nat_lit 0xF86, nat_lit 0xF87⟩,
     ⟨nat_lit 0xF8D, nat_lit 0xF97⟩, ⟨nat_lit 0xF99, nat_lit 0xFBC⟩,
     ⟨nat_lit 0xFC6, nat_lit 0xFC6⟩, ⟨nat_lit 0x102D, nat_lit 0x1030⟩,
     ⟨nat_lit 0x1032, nat_lit 0x1037⟩, ⟨nat_lit 0x1039, nat_lit 0x103A⟩,
     ⟨nat_lit 0x103D, nat_lit 0x103E⟩, ⟨nat_lit 0x1058, nat_lit 0x1059⟩,
     ⟨nat_lit 0x105E, nat_lit 0x1060⟩, ⟨nat_lit 0x1071, nat_lit 0x1074⟩,
     ⟨nat_lit 0x1082, nat_lit 0x1082⟩, ⟨nat_lit 0x1085, nat_lit 0x1086⟩,
     ⟨nat_lit 0x108D, nat_lit 0x108D⟩, ⟨nat_lit 0x109D, nat_lit 0x109D⟩,
     ⟨nat_lit 0x135D, nat_lit 0x135F⟩, ⟨nat_lit 0x1712, nat_lit 0x1715⟩,
     ⟨nat_lit 0x1732, nat_lit 0x1734⟩, ⟨nat_lit 0x1752, nat_lit 0x1753⟩,
     ⟨nat_lit 0x1772, nat_lit 0x1773⟩, ⟨nat_lit 0x17B4, nat_lit 0x17B5⟩,
     ⟨nat_lit 0x17B7, nat_lit 0x17BD⟩, ⟨nat_lit 0x17C6, nat_lit 0x17C6⟩,
     ⟨nat_lit 0x17C9, nat_lit 0x17D3⟩, ⟨nat_lit 0x17DD, nat_lit 0x17DD⟩,
     ⟨nat_lit 0x180B, nat_lit 0x180D⟩, ⟨nat_lit 0x180F, nat_lit 0x180F⟩,
     ⟨nat_lit 0x1885, nat_lit 0x1886⟩, ⟨nat_lit 0x18A9, nat_lit 0x18A9⟩,
     ⟨nat_lit 0x1920, nat_lit 0x1922⟩, ⟨nat_lit 0x1927, nat_lit 0x1928⟩,
     ⟨nat_lit 0x1932, nat_lit 0x1932⟩, ⟨nat_lit 0x1939, nat_lit 0x193B⟩,
     ⟨nat_lit 0x1A17, nat_lit 0x1A18⟩, ⟨nat_lit 0x1A1B, nat_lit 0x1A1B⟩,
     ⟨nat_lit 0x1A56, nat_lit 0x1A56⟩, ⟨nat_lit 0x1A58, nat_lit 0x1A5E⟩,
     ⟨nat_lit 0x1A60, nat_lit 0x1A60⟩, ⟨nat_lit 0x1A62, nat_lit 0x1A62⟩,
     ⟨nat_lit 0x1A65, nat_lit 0x1A6C⟩, ⟨nat_lit 0x1A73, nat_lit 0x1A7C⟩,
     ⟨nat_lit 0x1A7F, nat_lit 0x1A7F⟩, ⟨nat_lit 0x1AB0, nat_lit 0x1ACE⟩,
     ⟨nat_lit 0x1B00, nat_lit 0x1B03⟩, ⟨nat_lit 0x1B34, nat_lit 0x1B3D⟩,
     ⟨nat_lit 0x1B42, nat_lit 0x1B44⟩, ⟨nat_lit 0x1B6B, nat_lit 0x1B73⟩,
     ⟨nat_lit 0x1B80, nat_lit 0x1B81⟩, ⟨nat_lit 0x1BA2, nat_lit 0x1BA5⟩,
     ⟨nat_lit 0x1BA8, nat_lit 0x1BAD⟩, ⟨nat_lit 0x1BE6, nat_lit 0x1BE6⟩,
     ⟨nat_lit 0x1BE8, nat_lit 0x1BE9⟩, ⟨nat_lit 0x1BED, nat_lit 0x1BED⟩,
     ⟨nat_lit 0x1BEF, nat_lit 0x1BF3⟩, ⟨nat_lit 0x1C2C, nat_lit 0x1C33⟩,
     ⟨nat_lit 0x1C36, nat_lit 0x1C37⟩, ⟨nat_lit 0x1CD0, nat_lit 0x1CD2⟩,
     ⟨nat_lit 0x1CD4, nat_lit 0x1CE0⟩, ⟨nat_lit 0x1CE2, nat_lit 0x1CE8⟩,
     ⟨nat_lit 0x1CED, nat_lit 0x1CED⟩, ⟨nat_lit 0x1CF4, nat_lit 0x1CF4⟩,
     ⟨nat_lit 0x1CF8, nat_lit 0x1CF9⟩, ⟨nat_lit 0x1DC0, nat_lit 0x1DFF⟩,
     ⟨nat_lit 0x200C, nat_lit 0x200C⟩, ⟨nat_lit 0x20D0, nat_lit 0x20F0⟩,
     ⟨nat_lit 0x2CEF, nat_lit 0x2CF1⟩, ⟨nat_lit 0x2D7F, nat_lit 0x2D7F⟩,
     ⟨nat_lit 0x2DE0, nat_lit 0x2DFF⟩, ⟨nat_lit 0x302A, nat_lit 0x302F⟩,
     ⟨nat_lit 0x3099, nat_lit 0x309A⟩, ⟨nat_lit 0xA66F, nat_lit 0xA672⟩,
     ⟨nat_lit 0xA674, nat_lit 0xA67D⟩, ⟨nat_lit 0xA69E, nat_lit 0xA69F⟩,
     ⟨nat_lit 0xA6F0, nat_lit 0xA6F1⟩, ⟨nat_lit 0xA802, nat_lit 0xA802⟩,
     ⟨nat_lit 0xA806, nat_lit 0xA806⟩, ⟨nat_lit 0xA80B, nat_lit 0xA80B⟩,
     ⟨nat_lit 0xA825, nat_lit 0xA826⟩, ⟨nat_lit 0xA82C, nat_lit 0xA82C⟩,
     ⟨nat_lit 0xA8C4, nat_lit 0xA8C5⟩, ⟨nat_lit 0xA8E0, nat_lit 0xA8F1⟩,
     ⟨nat_lit 0xA8FF, nat_lit 0xA8FF⟩, ⟨nat_lit 0xA926, nat_lit 0xA92D⟩,
     ⟨nat_lit 0xA947, nat_lit 0xA951⟩, ⟨nat_lit 0xA953, nat_lit 0xA953⟩,
     ⟨nat_lit 0xA980, nat_lit 0xA982⟩, ⟨nat_lit 0xA9B3, nat_lit 0xA9B3⟩,
     ⟨nat_lit 0xA9B6, nat_lit 0xA9B9⟩, ⟨nat_lit 0xA9BC, nat_lit 0xA9BD⟩,
     ⟨nat_lit 0xA9C0, nat_lit 0xA9C0⟩, ⟨nat_lit 0xA9E5, nat_lit 0xA9E5⟩,
     ⟨nat_lit 0xAA29, nat_lit 0xAA2E⟩, ⟨nat_lit 0xAA31, nat_lit 0xAA32⟩,
     ⟨nat_lit 0xAA35, nat_lit 0xAA36⟩, ⟨nat_lit 0xAA43, nat_lit 0xAA43⟩,
     ⟨nat_lit 0xAA4C, nat_lit 0xAA4C⟩, ⟨nat_lit 0xAA7C, nat_lit 0xAA7C⟩,
     ⟨nat_lit 0xAAB0, nat_lit 0xAAB0⟩, ⟨nat_lit 0xAAB2, nat_lit 0xAAB4⟩,
     ⟨nat_lit 0xAAB7, nat_lit 0xAAB8⟩, ⟨nat_lit 0xAABE, nat_lit 0xAABF⟩,
     ⟨nat_lit 0xAAC1, nat_lit 0xAAC1⟩, ⟨nat_lit 0xAAEC, nat_lit 0xAAED⟩,
     ⟨nat_lit 0xAAF6, nat_lit 0xAAF6⟩, ⟨nat_lit 0xABE5, nat_lit 0xABE5⟩,
     ⟨nat_lit 0xABE8, nat_lit 0xABE8⟩, ⟨nat_lit 0xABED, nat_lit 0xABED⟩,
     ⟨nat_lit 0xFB1E, nat_lit 0xFB1E⟩, ⟨nat_lit 0xFE00, nat_lit 0xFE0F⟩,
     ⟨nat_lit 0xFE20, nat_lit 0xFE2F⟩, ⟨nat_lit 0xFF9E, nat_lit 0xFF9F⟩,
     ⟨nat_lit 0x101FD, nat_lit 0x101FD⟩, ⟨nat_lit 0x102E0, nat_lit 0x102E0⟩,
     ⟨nat_lit 0x10376, nat_lit 0x1037A⟩, ⟨nat_lit 0x10A01, nat_lit 0x10A03⟩,
     ⟨nat_lit 0x10A05, nat_lit 0x10A06⟩, ⟨nat_lit 0x10A0C, nat_lit 0x10A0F⟩,
     ⟨nat_lit 0x10A38, nat_lit 0x10A3A⟩, ⟨nat_lit 0x10A3F, nat_lit 0x10A3F⟩,
     ⟨nat_lit 0x10AE5, nat_lit 0x10AE6⟩, ⟨nat_lit 0x10D24, nat_lit 0x10D27⟩,
     ⟨nat_lit 0x10D69, nat_lit 0x10D6D⟩, ⟨nat_lit 0x10EAB, nat_lit 0x10EAC⟩,
     ⟨nat_lit 0x10EFC, nat_lit 0x10EFF⟩, ⟨nat_lit 0x10F46, nat_lit 0x10F50⟩,
     ⟨nat_lit 0x10F82, nat_lit 0x10F85⟩, ⟨nat_lit 0x11001, nat_lit 0x11001⟩,
     ⟨nat_lit 0x11038, nat_lit 0x11046⟩, ⟨nat_lit 0x11070, nat_lit 0x11070⟩,
     ⟨nat_lit 0x11073, nat_lit 0x11074⟩, ⟨nat_lit 0x1107F, nat_lit 0x11081⟩,
     ⟨nat_lit 0x110B3, nat_lit 0x110B6⟩, ⟨nat_lit 0x110B9, nat_lit 0x110BA⟩,
     ⟨nat_lit 0x110C2, nat_lit 0x110C2⟩, ⟨nat_lit 0x11100, nat_lit 0x11102⟩,
     ⟨nat_lit 0x11127, nat_lit 0x1112B⟩, ⟨nat_lit 0x1112D, nat_lit 0x11134⟩,
     ⟨nat_lit 0x11173, nat_lit 0x11173⟩, ⟨nat_lit 0x11180, nat_lit 0x11181⟩,
     ⟨nat_lit 0x111B6, nat_lit 0x111BE⟩, ⟨nat_lit 0x111C0, nat_lit 0x111C0⟩,
     ⟨nat_lit 0x111C9, nat_lit 0x111CC⟩, ⟨nat_lit 0x111CF, nat_lit 0x111CF⟩,
     ⟨nat_lit 0x1122F, nat_lit 0x11231⟩, ⟨nat_lit 0x11234, nat_lit 0x11237⟩,
     ⟨nat_lit 0x1123E, nat_lit 0x1123E⟩, ⟨nat_lit 0x11241, nat_lit 0x11241⟩,
     ⟨nat_lit 0x112DF, nat_lit 0x112DF⟩, ⟨nat_lit 0x112E3, nat_lit 0x112EA⟩,
     ⟨nat_lit 0x11300, nat_lit 0x11301⟩, ⟨nat_lit 0x1133B, nat_lit 0x1133C⟩,
     ⟨nat_lit 0x1133E, nat_lit 0x1133E⟩, ⟨nat_lit 0x11340, nat_lit 0x11340⟩,
     ⟨nat_lit 0x1134D, nat_lit 0x1134D⟩, ⟨nat_lit 0x11357, nat_lit 0x11357⟩,
     ⟨nat_lit 0x11366, nat_lit 0x1136C⟩, ⟨nat_lit 0x11370, nat_lit 0x11374⟩,
     ⟨nat_lit 0x113B8, nat_lit 0x113B8⟩, ⟨nat_lit 0x113BB, nat_lit 0x113C0⟩,
     ⟨nat_lit 0x113C2, nat_lit 0x113C2⟩, ⟨nat_lit 0x113C5, nat_lit 0x113C5⟩,
     ⟨nat_lit 0x113C7, nat_lit 0x113C9⟩, ⟨nat_lit 0x113CE, nat_lit 0x113D0⟩,
     ⟨nat_lit 0x113D2, nat_lit 0x113D2⟩, ⟨nat_lit 0x113E1, nat_lit 0x113E2⟩,
     ⟨nat_lit 0x11438, nat_lit 0x1143F⟩, ⟨nat_lit 0x11442, nat_lit 0x11444⟩,
     ⟨nat_lit 0x11446, nat_lit 0x11446⟩, ⟨nat_lit 0x1145E, nat_lit 0x1145E⟩,
     ⟨nat_lit 0x114B0, nat_lit 0x114B0⟩, ⟨nat_lit 0x114B3, nat_lit 0x114B8⟩,
     ⟨nat_lit 0x114BA, nat_lit 0x114BA⟩, ⟨nat_lit 0x114BD, nat_lit 0x114BD⟩,
     ⟨nat_lit 0x114BF, nat_lit 0x114C0⟩, ⟨nat_lit 0x114C2, nat_lit 0x114C3⟩,
     ⟨nat_lit 0x115AF, nat_lit 0x115AF⟩, ⟨nat_lit 0x115B2, nat_lit 0x115B5⟩,
     ⟨nat_lit 0x115BC, nat_lit 0x115BD⟩, ⟨nat_lit 0x115BF, nat_lit 0x115C0⟩,
     ⟨nat_lit 0x115DC, nat_lit 0x115DD⟩, ⟨nat_lit 0x11633, nat_lit 0x1163A⟩,
     ⟨nat_lit 0x1163D, nat_lit 0x1163D⟩, ⟨nat_lit 0x1163F, nat_lit 0x11640⟩,
     ⟨nat_lit 0x116AB, nat_lit 0x116AB⟩, ⟨nat_lit 0x116AD, nat_lit 0x116AD⟩,
     ⟨nat_lit 0x116B0, nat_lit 0x116B7⟩, ⟨nat_lit 0x1171D, nat_lit 0x1171D⟩,
     ⟨nat_lit 0x1171F, nat_lit 0x1171F⟩, ⟨nat_lit 0x11722, nat_lit 0x11725⟩,
     ⟨nat_lit 0x11727, nat_lit 0x1172B⟩, ⟨nat_lit 0x1182F, nat_lit 0x11837⟩,
     ⟨nat_lit 0x11839, nat_lit 0x1183A⟩, ⟨nat_lit 0x11930, nat_lit 0x11930⟩,
     ⟨nat_lit 0x1193B, nat_lit 0x1193E⟩, ⟨nat_lit 0x11943, nat_lit 0x11943⟩,
     ⟨nat_lit 0x119D4, nat_lit 0x119D7⟩, ⟨nat_lit 0x119DA, nat_lit 0x119DB⟩,
     ⟨nat_lit 0x119E0, nat_lit 0x119E0⟩, ⟨nat_lit 0x11A01, nat_lit 0x11A0A⟩,
     ⟨nat_lit 0x11A33, nat_lit 0x11A38⟩, ⟨nat_lit 0x11A3B, nat_lit 0x11A3E⟩,
     ⟨nat_lit 0x11A47, nat_lit 0x11A47⟩, ⟨nat_lit 0x11A51, nat_lit 0x11A56⟩,
     ⟨nat_lit 0x11A59, nat_lit 0x11A5B⟩, ⟨nat_lit 0x11A8A, nat_lit 0x11A96⟩,
     ⟨nat_lit 0x11A98, nat_lit 0x11A99⟩, ⟨nat_lit 0x11C30, nat_lit 0x11C36⟩,
     ⟨nat_lit 0x11C38, nat_lit 0x11C3D⟩, ⟨nat_lit 0x11C3F, nat_lit 0x11C3F⟩,
     ⟨nat_lit 0x11C92, nat_lit 0x11CA7⟩, ⟨nat_lit 0x11CAA, nat_lit 0x11CB0⟩,
     ⟨nat_lit 0x11CB2, nat_lit 0x11CB3⟩, ⟨nat_lit 0x11CB5, nat_lit 0x11CB6⟩,
     ⟨nat_lit 0x11D31, nat_lit 0x11D36⟩, ⟨nat_lit 0x11D3A, nat_lit 0x11D3A⟩,
     ⟨nat_lit 0x11D3C, nat_lit 0x11D3D⟩, ⟨nat_lit 0x11D3F, nat_lit 0x11D45⟩,
     ⟨nat_lit 0x11D47, nat_lit 0x11D47⟩, ⟨nat_lit 0x11D90, nat_lit 0x11D91⟩,
     ⟨nat_lit 0x11D95, nat_lit 0x11D95⟩, ⟨nat_lit 0x11D97, nat_lit 0x11D97⟩,
     ⟨nat_lit 0x11EF3, nat_lit 0x11EF4⟩, ⟨nat_lit 0x11F00, nat_lit 0x11F01⟩,
     ⟨nat_lit 0x11F36, nat_lit 0x11F3A⟩, ⟨nat_lit 0x11F40, nat_lit 0x11F42⟩,
     ⟨nat_lit 0x11F5A, nat_lit 0x11F5A⟩, ⟨nat_lit 0x13440, nat_lit 0x13440⟩,
     ⟨nat_lit 0x13447, nat_lit 0x13455⟩, ⟨nat_lit 0x1611E, nat_lit 0x16129⟩,
     ⟨nat_lit 0x1612D, nat_lit 0x1612F⟩, ⟨nat_lit 0x16AF0, nat_lit 0x16AF4⟩,
     ⟨nat_lit 0x16B30, nat_lit 0x16B36⟩, ⟨nat_lit 0x16F4F, nat_lit 0x16F4F⟩,
     ⟨nat_lit 0x16F8F, nat_lit 0x16F92⟩, ⟨nat_lit 0x16FE4, nat_lit 0x16FE4⟩,
     ⟨nat_lit 0x16FF0, nat_lit 0x16FF1⟩, ⟨nat_lit 0x1BC9D, nat_lit 0x1BC9E⟩,
     ⟨nat_lit 0x1CF00, nat_lit 0x1CF2D⟩, ⟨nat_lit 0x1CF30, nat_lit 0x1CF46⟩,
     ⟨nat_lit 0x1D165, nat_lit 0x1D169⟩, ⟨nat_lit 0x1D16D, nat_lit 0x1D172⟩,
     ⟨nat_lit 0x1D17B, nat_lit 0x1D182⟩, ⟨nat_lit 0x1D185, nat_lit 0x1D18B⟩,
     ⟨nat_lit 0x1D1AA, nat_lit 0x1D1AD⟩, ⟨nat_lit 0x1D242, nat_lit 0x1D244⟩,
     ⟨nat_lit 0x1DA00, nat_lit 0x1DA36⟩, ⟨nat_lit 0x1DA3B, nat_lit 0x1DA6C⟩,
     ⟨nat_lit 0x1DA75, nat_lit 0x1DA75⟩, ⟨nat_lit 0x1DA84, nat_lit 0x1DA84⟩,
     ⟨nat_lit 0x1DA9B, nat_lit 0x1DA9F⟩, ⟨nat_lit 0x1DAA1, nat_lit 0x1DAAF⟩,
     ⟨nat_lit 0x1E000, nat_lit 0x1E006⟩, ⟨nat_lit 0x1E008, nat_lit 0x1E018⟩,
     ⟨nat_lit 0x1E01B, nat_lit 0x1E021⟩, ⟨nat_lit 0x1E023, nat_lit 0x1E024⟩,
     ⟨nat_lit 0x1E026, nat_lit 0x1E02A⟩, ⟨nat_lit 0x1E08F, nat_lit 0x1E08F⟩,
     ⟨nat_lit 0x1E130, nat_lit 0x1E136⟩, ⟨nat_lit 0x1E2AE, nat_lit 0x1E2AE⟩,
     ⟨nat_lit 0x1E2EC, nat_lit 0x1E2EF⟩, ⟨nat_lit 0x1E4EC, nat_lit 0x1E4EF⟩,
     ⟨nat_lit 0x1E5EE, nat_lit 0x1E5EF⟩, ⟨nat_lit 0x1E8D0, nat_lit 0x1E8D6⟩,
     ⟨nat_lit 0x1E944, nat_lit 0x1E94A⟩, ⟨nat_lit 0xE0020, nat_lit 0xE007F⟩,
     ⟨nat_lit 0xE0100, nat_lit 0xE01EF⟩])]

end Unicode

end EcmaRegex
