import EcmaRegex.CodePointSet.Basic
/-!
# Binary properties of emoji

The emoji characters, their default presentation, modifiers, components and the regional
indicators.
Unicode character database, version 16.0; each table lists the code points that have the
property, as ranges, by the property's long name.
-/

namespace EcmaRegex

namespace Unicode

set_option maxRecDepth 20000 in
/-- Binary properties of emoji, as ranges, by long name. -/
def emojiTables : List (String × List CodePointRange) := [
  ("Emoji",
    [⟨nat_lit 0x23, nat_lit 0x23⟩, ⟨nat_lit 0x2A, nat_lit 0x2A⟩, ⟨nat_lit 0x30, nat_lit 0x39⟩,
     ⟨nat_lit 0xA9, nat_lit 0xA9⟩, ⟨nat_lit 0xAE, nat_lit 0xAE⟩, ⟨nat_lit 0x203C, nat_lit 0x203C⟩,
     ⟨nat_lit 0x2049, nat_lit 0x2049⟩, ⟨nat_lit 0x2122, nat_lit 0x2122⟩,
     ⟨nat_lit 0x2139, nat_lit 0x2139⟩, ⟨nat_lit 0x2194, nat_lit 0x2199⟩,
     ⟨nat_lit 0x21A9, nat_lit 0x21AA⟩, ⟨nat_lit 0x231A, nat_lit 0x231B⟩,
     ⟨nat_lit 0x2328, nat_lit 0x2328⟩, ⟨nat_lit 0x23CF, nat_lit 0x23CF⟩,
     ⟨nat_lit 0x23E9, nat_lit 0x23F3⟩, ⟨nat_lit 0x23F8, nat_lit 0x23FA⟩,
     ⟨nat_lit 0x24C2, nat_lit 0x24C2⟩, ⟨nat_lit 0x25AA, nat_lit 0x25AB⟩,
     ⟨nat_lit 0x25B6, nat_lit 0x25B6⟩, ⟨nat_lit 0x25C0, nat_lit 0x25C0⟩,
     ⟨nat_lit 0x25FB, nat_lit 0x25FE⟩, ⟨nat_lit 0x2600, nat_lit 0x2604⟩,
     ⟨nat_lit 0x260E, nat_lit 0x260E⟩, ⟨nat_lit 0x2611, nat_lit 0x2611⟩,
     ⟨nat_lit 0x2614, nat_lit 0x2615⟩, ⟨nat_lit 0x2618, nat_lit 0x2618⟩,
     ⟨nat_lit 0x261D, nat_lit 0x261D⟩, ⟨nat_lit 0x2620, nat_lit 0x2620⟩,
     ⟨nat_lit 0x2622, nat_lit 0x2623⟩, ⟨nat_lit 0x2626, nat_lit 0x2626⟩,
     ⟨nat_lit 0x262A, nat_lit 0x262A⟩, ⟨nat_lit 0x262E, nat_lit 0x262F⟩,
     ⟨nat_lit 0x2638, nat_lit 0x263A⟩, ⟨nat_lit 0x2640, nat_lit 0x2640⟩,
     ⟨nat_lit 0x2642, nat_lit 0x2642⟩, ⟨nat_lit 0x2648, nat_lit 0x2653⟩,
     ⟨nat_lit 0x265F, nat_lit 0x2660⟩, ⟨nat_lit 0x2663, nat_lit 0x2663⟩,
     ⟨nat_lit 0x2665, nat_lit 0x2666⟩, ⟨nat_lit 0x2668, nat_lit 0x2668⟩,
     ⟨nat_lit 0x267B, nat_lit 0x267B⟩, ⟨nat_lit 0x267E, nat_lit 0x267F⟩,
     ⟨nat_lit 0x2692, nat_lit 0x2697⟩, ⟨nat_lit 0x2699, nat_lit 0x2699⟩,
     ⟨nat_lit 0x269B, nat_lit 0x269C⟩, ⟨nat_lit 0x26A0, nat_lit 0x26A1⟩,
     ⟨nat_lit 0x26A7, nat_lit 0x26A7⟩, ⟨nat_lit 0x26AA, nat_lit 0x26AB⟩,
     ⟨nat_lit 0x26B0, nat_lit 0x26B1⟩, ⟨nat_lit 0x26BD, nat_lit 0x26BE⟩,
     ⟨nat_lit 0x26C4, nat_lit 0x26C5⟩, ⟨nat_lit 0x26C8, nat_lit 0x26C8⟩,
     ⟨nat_lit 0x26CE, nat_lit 0x26CF⟩, ⟨nat_lit 0x26D1, nat_lit 0x26D1⟩,
     ⟨nat_lit 0x26D3, nat_lit 0x26D4⟩, ⟨nat_lit 0x26E9, nat_lit 0x26EA⟩,
     ⟨nat_lit 0x26F0, nat_lit 0x26F5⟩, ⟨nat_lit 0x26F7, nat_lit 0x26FA⟩,
     ⟨nat_lit 0x26FD, nat_lit 0x26FD⟩, ⟨nat_lit 0x2702, nat_lit 0x2702⟩,
     ⟨nat_lit 0x2705, nat_lit 0x2705⟩, ⟨nat_lit 0x2708, nat_lit 0x270D⟩,
     ⟨nat_lit 0x270F, nat_lit 0x270F⟩, ⟨nat_lit 0x2712, nat_lit 0x2712⟩,
     ⟨nat_lit 0x2714, nat_lit 0x2714⟩, ⟨nat_lit 0x2716, nat_lit 0x2716⟩,
     ⟨nat_lit 0x271D, nat_lit 0x271D⟩, ⟨nat_lit 0x2721, nat_lit 0x2721⟩,
     ⟨nat_lit 0x2728, nat_lit 0x2728⟩, ⟨nat_lit 0x2733, nat_lit 0x2734⟩,
     ⟨nat_lit 0x2744, nat_lit 0x2744⟩, ⟨nat_lit 0x2747, nat_lit 0x2747⟩,
     ⟨nat_lit 0x274C, nat_lit 0x274C⟩, ⟨nat_lit 0x274E, nat_lit 0x274E⟩,
     ⟨nat_lit 0x2753, nat_lit 0x2755⟩, ⟨nat_lit 0x2757, nat_lit 0x2757⟩,
     ⟨nat_lit 0x2763, nat_lit 0x2764⟩, ⟨nat_lit 0x2795, nat_lit 0x2797⟩,
     ⟨nat_lit 0x27A1, nat_lit 0x27A1⟩, ⟨nat_lit 0x27B0, nat_lit 0x27B0⟩,
     ⟨nat_lit 0x27BF, nat_lit 0x27BF⟩, ⟨nat_lit 0x2934, nat_lit 0x2935⟩,
     ⟨nat_lit 0x2B05, nat_lit 0x2B07⟩, ⟨nat_lit 0x2B1B, nat_lit 0x2B1C⟩,
     ⟨nat_lit 0x2B50, nat_lit 0x2B50⟩, ⟨nat_lit 0x2B55, nat_lit 0x2B55⟩,
     ⟨nat_lit 0x3030, nat_lit 0x3030⟩, ⟨nat_lit 0x303D, nat_lit 0x303D⟩,
     ⟨nat_lit 0x3297, nat_lit 0x3297⟩, ⟨nat_lit 0x3299, nat_lit 0x3299⟩,
     ⟨nat_lit 0x1F004, nat_lit 0x1F004⟩, ⟨nat_lit 0x1F0CF, nat_lit 0x1F0CF⟩,
     ⟨nat_lit 0x1F170, nat_lit 0x1F171⟩, ⟨nat_lit 0x1F17E, nat_lit 0x1F17F⟩,
     ⟨nat_lit 0x1F18E, nat_lit 0x1F18E⟩, ⟨nat_lit 0x1F191, nat_lit 0x1F19A⟩,
     ⟨nat_lit 0x1F1E6, nat_lit 0x1F1FF⟩, ⟨nat_lit 0x1F201, nat_lit 0x1F202⟩,
     ⟨nat_lit 0x1F21A, nat_lit 0x1F21A⟩, ⟨nat_lit 0x1F22F, nat_lit 0x1F22F⟩,
     ⟨nat_lit 0x1F232, nat_lit 0x1F23A⟩, ⟨nat_lit 0x1F250, nat_lit 0x1F251⟩,
     ⟨nat_lit 0x1F300, nat_lit 0x1F321⟩, ⟨nat_lit 0x1F324, nat_lit 0x1F393⟩,
     ⟨nat_lit 0x1F396, nat_lit 0x1F397⟩, ⟨nat_lit 0x1F399, nat_lit 0x1F39B⟩,
     ⟨nat_lit 0x1F39E, nat_lit 0x1F3F0⟩, ⟨nat_lit 0x1F3F3, nat_lit 0x1F3F5⟩,
     ⟨nat_lit 0x1F3F7, nat_lit 0x1F4FD⟩, ⟨nat_lit 0x1F4FF, nat_lit 0x1F53D⟩,
     ⟨nat_lit 0x1F549, nat_lit 0x1F54E⟩, ⟨nat_lit 0x1F550, nat_lit 0x1F567⟩,
     ⟨nat_lit 0x1F56F, nat_lit 0x1F570⟩, ⟨nat_lit 0x1F573, nat_lit 0x1F57A⟩,
     ⟨nat_lit 0x1F587, nat_lit 0x1F587⟩, ⟨nat_lit 0x1F58A, nat_lit 0x1F58D⟩,
     ⟨nat_lit 0x1F590, nat_lit 0x1F590⟩, ⟨nat_lit 0x1F595, nat_lit 0x1F596⟩,
     ⟨nat_lit 0x1F5A4, nat_lit 0x1F5A5⟩, ⟨nat_lit 0x1F5A8, nat_lit 0x1F5A8⟩,
     ⟨nat_lit 0x1F5B1, nat_lit 0x1F5B2⟩, ⟨nat_lit 0x1F5BC, nat_lit 0x1F5BC⟩,
     ⟨nat_lit 0x1F5C2, nat_lit 0x1F5C4⟩, ⟨nat_lit 0x1F5D1, nat_lit 0x1F5D3⟩,
     ⟨nat_lit 0x1F5DC, nat_lit 0x1F5DE⟩, ⟨nat_lit 0x1F5E1, nat_lit 0x1F5E1⟩,
     ⟨nat_lit 0x1F5E3, nat_lit 0x1F5E3⟩, ⟨nat_lit 0x1F5E8, nat_lit 0x1F5E8⟩,
     ⟨nat_lit 0x1F5EF, nat_lit 0x1F5EF⟩, ⟨nat_lit 0x1F5F3, nat_lit 0x1F5F3⟩,
     ⟨nat_lit 0x1F5FA, nat_lit 0x1F64F⟩, ⟨nat_lit 0x1F680, nat_lit 0x1F6C5⟩,
     ⟨nat_lit 0x1F6CB, nat_lit 0x1F6D2⟩, ⟨nat_lit 0x1F6D5, nat_lit 0x1F6D7⟩,
     ⟨nat_lit 0x1F6DC, nat_lit 0x1F6E5⟩, ⟨nat_lit 0x1F6E9, nat_lit 0x1F6E9⟩,
     ⟨nat_lit 0x1F6EB, nat_lit 0x1F6EC⟩, ⟨nat_lit 0x1F6F0, nat_lit 0x1F6F0⟩,
     ⟨nat_lit 0x1F6F3, nat_lit 0x1F6FC⟩, ⟨nat_lit 0x1F7E0, nat_lit 0x1F7EB⟩,
     ⟨nat_lit 0x1F7F0, nat_lit 0x1F7F0⟩, ⟨nat_lit 0x1F90C, nat_lit 0x1F93A⟩,
     ⟨nat_lit 0x1F93C, nat_lit 0x1F945⟩, ⟨nat_lit 0x1F947, nat_lit 0x1F9FF⟩,
     ⟨nat_lit 0x1FA70, nat_lit 0x1FA7C⟩, ⟨nat_lit 0x1FA80, nat_lit 0x1FA89⟩,
     ⟨nat_lit 0x1FA8F, nat_lit 0x1FAC6⟩, ⟨nat_lit 0x1FACE, nat_lit 0x1FADC⟩,
     ⟨nat_lit 0x1FADF, nat_lit 0x1FAE9⟩, ⟨nat_lit 0x1FAF0, nat_lit 0x1FAF8⟩]),
  ("Emoji_Presentation",
    [⟨nat_lit 0x231A, nat_lit 0x231B⟩, ⟨nat_lit 0x23E9, nat_lit 0x23EC⟩,
     ⟨nat_lit 0x23F0, nat_lit 0x23F0⟩, ⟨nat_lit 0x23F3, nat_lit 0x23F3⟩,
     ⟨nat_lit 0x25FD, nat_lit 0x25FE⟩, ⟨nat_lit 0x2614, nat_lit 0x2615⟩,
     ⟨nat_lit 0x2648, nat_lit 0x2653⟩, ⟨nat_lit 0x267F, nat_lit 0x267F⟩,
     ⟨nat_lit 0x2693, nat_lit 0x2693⟩, ⟨nat_lit 0x26A1, nat_lit 0x26A1⟩,
     ⟨nat_lit 0x26AA, nat_lit 0x26AB⟩, ⟨nat_lit 0x26BD, nat_lit 0x26BE⟩,
     ⟨nat_lit 0x26C4, nat_lit 0x26C5⟩, ⟨nat_lit 0x26CE, nat_lit 0x26CE⟩,
     ⟨nat_lit 0x26D4, nat_lit 0x26D4⟩, ⟨nat_lit 0x26EA, nat_lit 0x26EA⟩,
     ⟨nat_lit 0x26F2, nat_lit 0x26F3⟩, ⟨nat_lit 0x26F5, nat_lit 0x26F5⟩,
     ⟨nat_lit 0x26FA, nat_lit 0x26FA⟩, ⟨nat_lit 0x26FD, nat_lit 0x26FD⟩,
     ⟨nat_lit 0x2705, nat_lit 0x2705⟩, ⟨nat_lit 0x270A, nat_lit 0x270B⟩,
     ⟨nat_lit 0x2728, nat_lit 0x2728⟩, ⟨nat_lit 0x274C, nat_lit 0x274C⟩,
     ⟨nat_lit 0x274E, nat_lit 0x274E⟩, ⟨nat_lit 0x2753, nat_lit 0x2755⟩,
     ⟨nat_lit 0x2757, nat_lit 0x2757⟩, ⟨nat_lit 0x2795, nat_lit 0x2797⟩,
     ⟨nat_lit 0x27B0, nat_lit 0x27B0⟩, ⟨nat_lit 0x27BF, nat_lit 0x27BF⟩,
     ⟨nat_lit 0x2B1B, nat_lit 0x2B1C⟩, ⟨nat_lit 0x2B50, nat_lit 0x2B50⟩,
     ⟨nat_lit 0x2B55, nat_lit 0x2B55⟩, ⟨nat_lit 0x1F004, nat_lit 0x1F004⟩,
     ⟨nat_lit 0x1F0CF, nat_lit 0x1F0CF⟩, ⟨nat_lit 0x1F18E, nat_lit 0x1F18E⟩,
     ⟨nat_lit 0x1F191, nat_lit 0x1F19A⟩, ⟨nat_lit 0x1F1E6, nat_lit 0x1F1FF⟩,
     ⟨nat_lit 0x1F201, nat_lit 0x1F201⟩, ⟨nat_lit 0x1F21A, nat_lit 0x1F21A⟩,
     ⟨nat_lit 0x1F22F, nat_lit 0x1F22F⟩, ⟨nat_lit 0x1F232, nat_lit 0x1F236⟩,
     ⟨nat_lit 0x1F238, nat_lit 0x1F23A⟩, ⟨nat_lit 0x1F250, nat_lit 0x1F251⟩,
     ⟨nat_lit 0x1F300, nat_lit 0x1F320⟩, ⟨nat_lit 0x1F32D, nat_lit 0x1F335⟩,
     ⟨nat_lit 0x1F337, nat_lit 0x1F37C⟩, ⟨nat_lit 0x1F37E, nat_lit 0x1F393⟩,
     ⟨nat_lit 0x1F3A0, nat_lit 0x1F3CA⟩, ⟨nat_lit 0x1F3CF, nat_lit 0x1F3D3⟩,
     ⟨nat_lit 0x1F3E0, nat_lit 0x1F3F0⟩, ⟨nat_lit 0x1F3F4, nat_lit 0x1F3F4⟩,
     ⟨nat_lit 0x1F3F8, nat_lit 0x1F43E⟩, ⟨nat_lit 0x1F440, nat_lit 0x1F440⟩,
     ⟨nat_lit 0x1F442, nat_lit 0x1F4FC⟩, ⟨nat_lit 0x1F4FF, nat_lit 0x1F53D⟩,
     ⟨nat_lit 0x1F54B, nat_lit 0x1F54E⟩, ⟨nat_lit 0x1F550, nat_lit 0x1F567⟩,
     ⟨nat_lit 0x1F57A, nat_lit 0x1F57A⟩, ⟨nat_lit 0x1F595, nat_lit 0x1F596⟩,
     ⟨nat_lit 0x1F5A4, nat_lit 0x1F5A4⟩, ⟨nat_lit 0x1F5FB, nat_lit 0x1F64F⟩,
     ⟨nat_lit 0x1F680, nat_lit 0x1F6C5⟩, ⟨nat_lit 0x1F6CC, nat_lit 0x1F6CC⟩,
     ⟨nat_lit 0x1F6D0, nat_lit 0x1F6D2⟩, ⟨nat_lit 0x1F6D5, nat_lit 0x1F6D7⟩,
     ⟨nat_lit 0x1F6DC, nat_lit 0x1F6DF⟩, ⟨nat_lit 0x1F6EB, nat_lit 0x1F6EC⟩,
     ⟨nat_lit 0x1F6F4, nat_lit 0x1F6FC⟩, ⟨nat_lit 0x1F7E0, nat_lit 0x1F7EB⟩,
     ⟨nat_lit 0x1F7F0, nat_lit 0x1F7F0⟩, ⟨nat_lit 0x1F90C, nat_lit 0x1F93A⟩,
     ⟨nat_lit 0x1F93C, nat_lit 0x1F945⟩, ⟨nat_lit 0x1F947, nat_lit 0x1F9FF⟩,
     ⟨nat_lit 0x1FA70, nat_lit 0x1FA7C⟩, ⟨nat_lit 0x1FA80, nat_lit 0x1FA89⟩,
     ⟨nat_lit 0x1FA8F, nat_lit 0x1FAC6⟩, ⟨nat_lit 0x1FACE, nat_lit 0x1FADC⟩,
     ⟨nat_lit 0x1FADF, nat_lit 0x1FAE9⟩, ⟨nat_lit 0x1FAF0, nat_lit 0x1FAF8⟩]),
  ("Emoji_Modifier",
    [⟨nat_lit 0x1F3FB, nat_lit 0x1F3FF⟩]),
  ("Emoji_Modifier_Base",
    [⟨nat_lit 0x261D, nat_lit 0x261D⟩, ⟨nat_lit 0x26F9, nat_lit 0x26F9⟩,
     ⟨nat_lit 0x270A, nat_lit 0x270D⟩, ⟨nat_lit 0x1F385, nat_lit 0x1F385⟩,
     ⟨nat_lit 0x1F3C2, nat_lit 0x1F3C4⟩, ⟨nat_lit 0x1F3C7, nat_lit 0x1F3C7⟩,
     ⟨nat_lit 0x1F3CA, nat_lit 0x1F3CC⟩, ⟨nat_lit 0x1F442, nat_lit 0x1F443⟩,
     ⟨nat_lit 0x1F446, nat_lit 0x1F450⟩, ⟨nat_lit 0x1F466, nat_lit 0x1F478⟩,
     ⟨nat_lit 0x1F47C, nat_lit 0x1F47C⟩, ⟨nat_lit 0x1F481, nat_lit 0x1F483⟩,
     ⟨nat_lit 0x1F485, nat_lit 0x1F487⟩, ⟨nat_lit 0x1F48F, nat_lit 0x1F48F⟩,
     ⟨nat_lit 0x1F491, nat_lit 0x1F491⟩, ⟨nat_lit 0x1F4AA, nat_lit 0x1F4AA⟩,
     ⟨nat_lit 0x1F574, nat_lit 0x1F575⟩, ⟨nat_lit 0x1F57A, nat_lit 0x1F57A⟩,
     ⟨nat_lit 0x1F590, nat_lit 0x1F590⟩, ⟨nat_lit 0x1F595, nat_lit 0x1F596⟩,
     ⟨nat_lit 0x1F645, nat_lit 0x1F647⟩, ⟨nat_lit 0x1F64B, nat_lit 0x1F64F⟩,
     ⟨nat_lit 0x1F6A3, nat_lit 0x1F6A3⟩, ⟨nat_lit 0x1F6B4, nat_lit 0x1F6B6⟩,
     ⟨nat_lit 0x1F6C0, nat_lit 0x1F6C0⟩, ⟨nat_lit 0x1F6CC, nat_lit 0x1F6CC⟩,
     ⟨nat_lit 0x1F90C, nat_lit 0x1F90C⟩, ⟨nat_lit 0x1F90F, nat_lit 0x1F90F⟩,
     ⟨nat_lit 0x1F918, nat_lit 0x1F91F⟩, ⟨nat_lit 0x1F926, nat_lit 0x1F926⟩,
     ⟨nat_lit 0x1F930, nat_lit 0x1F939⟩, ⟨nat_lit 0x1F93C, nat_lit 0x1F93E⟩,
     ⟨nat_lit 0x1F977, nat_lit 0x1F977⟩, ⟨nat_lit 0x1F9B5, nat_lit 0x1F9B6⟩,
     ⟨nat_lit 0x1F9B8, nat_lit 0x1F9B9⟩, ⟨nat_lit 0x1F9BB, nat_lit 0x1F9BB⟩,
     ⟨nat_lit 0x1F9CD, nat_lit 0x1F9CF⟩, ⟨nat_lit 0x1F9D1, nat_lit 0x1F9DD⟩,
     ⟨nat_lit 0x1FAC3, nat_lit 0x1FAC5⟩, ⟨nat_lit 0x1FAF0, nat_lit 0x1FAF8⟩]),
  ("Emoji_Component",
    [⟨nat_lit 0x23, nat_lit 0x23⟩, ⟨nat_lit 0x2A, nat_lit 0x2A⟩, ⟨nat_lit 0x30, nat_lit 0x39⟩,
     ⟨nat_lit 0x200D, nat_lit 0x200D⟩, ⟨nat_lit 0x20E3, nat_lit 0x20E3⟩,
     ⟨nat_lit 0xFE0F, nat_lit 0xFE0F⟩, ⟨nat_lit 0x1F1E6, nat_lit 0x1F1FF⟩,
     ⟨nat_lit 0x1F3FB, nat_lit 0x1F3FF⟩, ⟨nat_lit 0x1F9B0, nat_lit 0x1F9B3⟩,
     ⟨nat_lit 0xE0020, nat_lit 0xE007F⟩]),
  ("Extended_Pictographic",
    [⟨nat_lit 0xA9, nat_lit 0xA9⟩, ⟨nat_lit 0xAE, nat_lit 0xAE⟩, ⟨nat_lit 0x203C, nat_lit 0x203C⟩,
     ⟨nat_lit 0x2049, nat_lit 0x2049⟩, ⟨nat_lit 0x2122, nat_lit 0x2122⟩,
     ⟨nat_lit 0x2139, nat_lit 0x2139⟩, ⟨nat_lit 0x2194, nat_lit 0x2199⟩,
     ⟨nat_lit 0x21A9, nat_lit 0x21AA⟩, ⟨nat_lit 0x231A, nat_lit 0x231B⟩,
     ⟨nat_lit 0x2328, nat_lit 0x2328⟩, ⟨nat_lit 0x2388, nat_lit 0x2388⟩,
     ⟨nat_lit 0x23CF, nat_lit 0x23CF⟩, ⟨nat_lit 0x23E9, nat_lit 0x23F3⟩,
     ⟨nat_lit 0x23F8, nat_lit 0x23FA⟩, ⟨nat_lit 0x24C2, nat_lit 0x24C2⟩,
     ⟨nat_lit 0x25AA, nat_lit 0x25AB⟩, ⟨nat_lit 0x25B6, nat_lit 0x25B6⟩,
     ⟨nat_lit 0x25C0, nat_lit 0x25C0⟩, ⟨nat_lit 0x25FB, nat_lit 0x25FE⟩,
     ⟨nat_lit 0x2600, nat_lit 0x2605⟩, ⟨nat_lit 0x2607, nat_lit 0x2612⟩,
     ⟨nat_lit 0x2614, nat_lit 0x2685⟩, ⟨nat_lit 0x2690, nat_lit 0x2705⟩,
     ⟨nat_lit 0x2708, nat_lit 0x2712⟩, ⟨nat_lit 0x2714, nat_lit 0x2714⟩,
     ⟨nat_lit 0x2716, nat_lit 0x2716⟩, ⟨nat_lit 0x271D, nat_lit 0x271D⟩,
     ⟨nat_lit 0x2721, nat_lit 0x2721⟩, ⟨nat_lit 0x2728, nat_lit 0x2728⟩,
     ⟨nat_lit 0x2733, nat_lit 0x2734⟩, ⟨nat_lit 0x2744, nat_lit 0x2744⟩,
     ⟨nat_lit 0x2747, nat_lit 0x2747⟩, ⟨nat_lit 0x274C, nat_lit 0x274C⟩,
     ⟨nat_lit 0x274E, nat_lit 0x274E⟩, ⟨nat_lit 0x2753, nat_lit 0x2755⟩,
     ⟨nat_lit 0x2757, nat_lit 0x2757⟩, ⟨nat_lit 0x2763, nat_lit 0x2767⟩,
     ⟨nat_lit 0x2795, nat_lit 0x2797⟩, ⟨nat_lit 0x27A1, nat_lit 0x27A1⟩,
     ⟨nat_lit 0x27B0, nat_lit 0x27B0⟩, ⟨nat_lit 0x27BF, nat_lit 0x27BF⟩,
     ⟨nat_lit 0x2934, nat_lit 0x2935⟩, ⟨nat_lit 0x2B05, nat_lit 0x2B07⟩,
     ⟨nat_lit 0x2B1B, nat_lit 0x2B1C⟩, ⟨nat_lit 0x2B50, nat_lit 0x2B50⟩,
     ⟨nat_lit 0x2B55, nat_lit 0x2B55⟩, ⟨nat_lit 0x3030, nat_lit 0x3030⟩,
     ⟨nat_lit 0x303D, nat_lit 0x303D⟩, ⟨nat_lit 0x3297, nat_lit 0x3297⟩,
     ⟨nat_lit 0x3299, nat_lit 0x3299⟩, ⟨nat_lit 0x1F000, nat_lit 0x1F0FF⟩,
     ⟨nat_lit 0x1F10D, nat_lit 0x1F10F⟩, ⟨nat_lit 0x1F12F, nat_lit 0x1F12F⟩,
     ⟨nat_lit 0x1F16C, nat_lit 0x1F171⟩, ⟨nat_lit 0x1F17E, nat_lit 0x1F17F⟩,
     ⟨nat_lit 0x1F18E, nat_lit 0x1F18E⟩, ⟨nat_lit 0x1F191, nat_lit 0x1F19A⟩,
     ⟨nat_lit 0x1F1AD, nat_lit 0x1F1E5⟩, ⟨nat_lit 0x1F201, nat_lit 0x1F20F⟩,
     ⟨nat_lit 0x1F21A, nat_lit 0x1F21A⟩, ⟨nat_lit 0x1F22F, nat_lit 0x1F22F⟩,
     ⟨nat_lit 0x1F232, nat_lit 0x1F23A⟩, ⟨nat_lit 0x1F23C, nat_lit 0x1F23F⟩,
     ⟨nat_lit 0x1F249, nat_lit 0x1F3FA⟩, ⟨nat_lit 0x1F400, nat_lit 0x1F53D⟩,
     ⟨nat_lit 0x1F546, nat_lit 0x1F64F⟩, ⟨nat_lit 0x1F680, nat_lit 0x1F6FF⟩,
     ⟨nat_lit 0x1F774, nat_lit 0x1F77F⟩, ⟨nat_lit 0x1F7D5, nat_lit 0x1F7FF⟩,
     ⟨nat_lit 0x1F80C, nat_lit 0x1F80F⟩, ⟨nat_lit 0x1F848, nat_lit 0x1F84F⟩,
     ⟨nat_lit 0x1F85A, nat_lit 0x1F85F⟩, ⟨nat_lit 0x1F888, nat_lit 0x1F88F⟩,
     ⟨nat_lit 0x1F8AE, nat_lit 0x1F8FF⟩, ⟨nat_lit 0x1F90C, nat_lit 0x1F93A⟩,
     ⟨nat_lit 0x1F93C, nat_lit 0x1F945⟩, ⟨nat_lit 0x1F947, nat_lit 0x1FAFF⟩,
     ⟨nat_lit 0x1FC00, nat_lit 0x1FFFD⟩]),
  ("Regional_Indicator",
    [⟨nat_lit 0x1F1E6, nat_lit 0x1F1FF⟩])]

end Unicode

end EcmaRegex
