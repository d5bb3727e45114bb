import EcmaRegex.CodePointSet.Basic
/-!
# General categories

The thirty general categories of the Unicode character database, version 16.0, and the code
points of each.  Every code point, surrogates and unassigned ones included, has exactly one
category.  The surrogates form the category `surrogate`; the code points no other category
covers are `unassigned`.

The ranges of each category are ascending and in normal form.  Each table is a list of ranges written with raw literals (`nat_lit`), which Lean reads
quickly and the kernel can evaluate, so that facts about the data are checked by `decide`.
-/

namespace EcmaRegex

/-- A general category of the Unicode character database. -/
inductive GeneralCategory where
  /-- Uppercase letter, `Lu`. -/
  | uppercaseLetter
  /-- Lowercase letter, `Ll`. -/
  | lowercaseLetter
  /-- Titlecase letter, `Lt`. -/
  | titlecaseLetter
  /-- Modifier letter, `Lm`. -/
  | modifierLetter
  /-- Other letter, `Lo`. -/
  | otherLetter
  /-- Nonspacing mark, `Mn`. -/
  | nonspacingMark
  /-- Spacing mark, `Mc`. -/
  | spacingMark
  /-- Enclosing mark, `Me`. -/
  | enclosingMark
  /-- Decimal number, `Nd`. -/
  | decimalNumber
  /-- Letter number, `Nl`. -/
  | letterNumber
  /-- Other number, `No`. -/
  | otherNumber
  /-- Connector punctuation, `Pc`. -/
  | connectorPunctuation
  /-- Dash punctuation, `Pd`. -/
  | dashPunctuation
  /-- Open punctuation, `Ps`. -/
  | openPunctuation
  /-- Close punctuation, `Pe`. -/
  | closePunctuation
  /-- Initial punctuation, `Pi`. -/
  | initialPunctuation
  /-- Final punctuation, `Pf`. -/
  | finalPunctuation
  /-- Other punctuation, `Po`. -/
  | otherPunctuation
  /-- Math symbol, `Sm`. -/
  | mathSymbol
  /-- Currency symbol, `Sc`. -/
  | currencySymbol
  /-- Modifier symbol, `Sk`. -/
  | modifierSymbol
  /-- Other symbol, `So`. -/
  | otherSymbol
  /-- Space separator, `Zs`. -/
  | spaceSeparator
  /-- Line separator, `Zl`. -/
  | lineSeparator
  /-- Paragraph separator, `Zp`. -/
  | paragraphSeparator
  /-- Control, `Cc`. -/
  | control
  /-- Format, `Cf`. -/
  | format
  /-- Surrogate, `Cs`. -/
  | surrogate
  /-- Private use, `Co`. -/
  | privateUse
  /-- Unassigned, `Cn`. -/
  | unassigned
  deriving DecidableEq, Repr, Inhabited

namespace GeneralCategory

/-- Every category, in the order of the database's two-letter codes. -/
def all : List GeneralCategory :=
  [.uppercaseLetter, .lowercaseLetter, .titlecaseLetter, .modifierLetter,
    .otherLetter, .nonspacingMark, .spacingMark, .enclosingMark,
    .decimalNumber, .letterNumber, .otherNumber, .connectorPunctuation,
    .dashPunctuation, .openPunctuation, .closePunctuation, .initialPunctuation,
    .finalPunctuation, .otherPunctuation, .mathSymbol, .currencySymbol,
    .modifierSymbol, .otherSymbol, .spaceSeparator, .lineSeparator,
    .paragraphSeparator, .control, .format, .surrogate,
    .privateUse, .unassigned]

set_option maxRecDepth 20000 in
/-- The code points of a category, as ranges. -/
def ranges : GeneralCategory → List CodePointRange
  | uppercaseLetter =>
    [⟨nat_lit 0x41, nat_lit 0x5A⟩, ⟨nat_lit 0xC0, nat_lit 0xD6⟩, ⟨nat_lit 0xD8, nat_lit 0xDE⟩,
     ⟨nat_lit 0x100, nat_lit 0x100⟩, ⟨nat_lit 0x102, nat_lit 0x102⟩,
     ⟨nat_lit 0x104, nat_lit 0x104⟩, ⟨nat_lit 0x106, nat_lit 0x106⟩,
     ⟨nat_lit 0x108, nat_lit 0x108⟩, ⟨nat_lit 0x10A, nat_lit 0x10A⟩,
     ⟨nat_lit 0x10C, nat_lit 0x10C⟩, ⟨nat_lit 0x10E, nat_lit 0x10E⟩,
     ⟨nat_lit 0x110, nat_lit 0x110⟩, ⟨nat_lit 0x112, nat_lit 0x112⟩,
     ⟨nat_lit 0x114, nat_lit 0x114⟩, ⟨nat_lit 0x116, nat_lit 0x116⟩,
     ⟨nat_lit 0x118, nat_lit 0x118⟩, ⟨nat_lit 0x11A, nat_lit 0x11A⟩,
     ⟨nat_lit 0x11C, nat_lit 0x11C⟩, ⟨nat_lit 0x11E, nat_lit 0x11E⟩,
     ⟨nat_lit 0x120, nat_lit 0x120⟩, ⟨nat_lit 0x122, nat_lit 0x122⟩,
     ⟨nat_lit 0x124, nat_lit 0x124⟩, ⟨nat_lit 0x126, nat_lit 0x126⟩,
     ⟨nat_lit 0x128, nat_lit 0x128⟩, ⟨nat_lit 0x12A, nat_lit 0x12A⟩,
     ⟨nat_lit 0x12C, nat_lit 0x12C⟩, ⟨nat_lit 0x12E, nat_lit 0x12E⟩,
     ⟨nat_lit 0x130, nat_lit 0x130⟩, ⟨nat_lit 0x132, nat_lit 0x132⟩,
     ⟨nat_lit 0x134, nat_lit 0x134⟩, ⟨nat_lit 0x136, nat_lit 0x136⟩,
     ⟨nat_lit 0x139, nat_lit 0x139⟩, ⟨nat_lit 0x13B, nat_lit 0x13B⟩,
     ⟨nat_lit 0x13D, nat_lit 0x13D⟩, ⟨nat_lit 0x13F, nat_lit 0x13F⟩,
     ⟨nat_lit 0x141, nat_lit 0x141⟩, ⟨nat_lit 0x143, nat_lit 0x143⟩,
     ⟨nat_lit 0x145, nat_lit 0x145⟩, ⟨nat_lit 0x147, nat_lit 0x147⟩,
     ⟨nat_lit 0x14A, nat_lit 0x14A⟩, ⟨nat_lit 0x14C, nat_lit 0x14C⟩,
     ⟨nat_lit 0x14E, nat_lit 0x14E⟩, ⟨nat_lit 0x150, nat_lit 0x150⟩,
     ⟨nat_lit 0x152, nat_lit 0x152⟩, ⟨nat_lit 0x154, nat_lit 0x154⟩,
     ⟨nat_lit 0x156, nat_lit 0x156⟩, ⟨nat_lit 0x158, nat_lit 0x158⟩,
     ⟨nat_lit 0x15A, nat_lit 0x15A⟩, ⟨nat_lit 0x15C, nat_lit 0x15C⟩,
     ⟨nat_lit 0x15E, nat_lit 0x15E⟩, ⟨nat_lit 0x160, nat_lit 0x160⟩,
     ⟨nat_lit 0x162, nat_lit 0x162⟩, ⟨nat_lit 0x164, nat_lit 0x164⟩,
     ⟨nat_lit 0x166, nat_lit 0x166⟩, ⟨nat_lit 0x168, nat_lit 0x168⟩,
     ⟨nat_lit 0x16A, nat_lit 0x16A⟩, ⟨nat_lit 0x16C, nat_lit 0x16C⟩,
     ⟨nat_lit 0x16E, nat_lit 0x16E⟩, ⟨nat_lit 0x170, nat_lit 0x170⟩,
     ⟨nat_lit 0x172, nat_lit 0x172⟩, ⟨nat_lit 0x174, nat_lit 0x174⟩,
     ⟨nat_lit 0x176, nat_lit 0x176⟩, ⟨nat_lit 0x178, nat_lit 0x179⟩,
     ⟨nat_lit 0x17B, nat_lit 0x17B⟩, ⟨nat_lit 0x17D, nat_lit 0x17D⟩,
     ⟨nat_lit 0x181, nat_lit 0x182⟩, ⟨nat_lit 0x184, nat_lit 0x184⟩,
     ⟨nat_lit 0x186, nat_lit 0x187⟩, ⟨nat_lit 0x189, nat_lit 0x18B⟩,
     ⟨nat_lit 0x18E, nat_lit 0x191⟩, ⟨nat_lit 0x193, nat_lit 0x194⟩,
     ⟨nat_lit 0x196, nat_lit 0x198⟩, ⟨nat_lit 0x19C, nat_lit 0x19D⟩,
     ⟨nat_lit 0x19F, nat_lit 0x1A0⟩, ⟨nat_lit 0x1A2, nat_lit 0x1A2⟩,
     ⟨nat_lit 0x1A4, nat_lit 0x1A4⟩, ⟨nat_lit 0x1A6, nat_lit 0x1A7⟩,
     ⟨nat_lit 0x1A9, nat_lit 0x1A9⟩, ⟨nat_lit 0x1AC, nat_lit 0x1AC⟩,
     ⟨nat_lit 0x1AE, nat_lit 0x1AF⟩, ⟨nat_lit 0x1B1, nat_lit 0x1B3⟩,
     ⟨nat_lit 0x1B5, nat_lit 0x1B5⟩, ⟨nat_lit 0x1B7, nat_lit 0x1B8⟩,
     ⟨nat_lit 0x1BC, nat_lit 0x1BC⟩, ⟨nat_lit 0x1C4, nat_lit 0x1C4⟩,
     ⟨nat_lit 0x1C7, nat_lit 0x1C7⟩, ⟨nat_lit 0x1CA, nat_lit 0x1CA⟩,
     ⟨nat_lit 0x1CD, nat_lit 0x1CD⟩, ⟨nat_lit 0x1CF, nat_lit 0x1CF⟩,
     ⟨nat_lit 0x1D1, nat_lit 0x1D1⟩, ⟨nat_lit 0x1D3, nat_lit 0x1D3⟩,
     ⟨nat_lit 0x1D5, nat_lit 0x1D5⟩, ⟨nat_lit 0x1D7, nat_lit 0x1D7⟩,
     ⟨nat_lit 0x1D9, nat_lit 0x1D9⟩, ⟨nat_lit 0x1DB, nat_lit 0x1DB⟩,
     ⟨nat_lit 0x1DE, nat_lit 0x1DE⟩, ⟨nat_lit 0x1E0, nat_lit 0x1E0⟩,
     ⟨nat_lit 0x1E2, nat_lit 0x1E2⟩, ⟨nat_lit 0x1E4, nat_lit 0x1E4⟩,
     ⟨nat_lit 0x1E6, nat_lit 0x1E6⟩, ⟨nat_lit 0x1E8, nat_lit 0x1E8⟩,
     ⟨nat_lit 0x1EA, nat_lit 0x1EA⟩, ⟨nat_lit 0x1EC, nat_lit 0x1EC⟩,
     ⟨nat_lit 0x1EE, nat_lit 0x1EE⟩, ⟨nat_lit 0x1F1, nat_lit 0x1F1⟩,
     ⟨nat_lit 0x1F4, nat_lit 0x1F4⟩, ⟨nat_lit 0x1F6, nat_lit 0x1F8⟩,
     ⟨nat_lit 0x1FA, nat_lit 0x1FA⟩, ⟨nat_lit 0x1FC, nat_lit 0x1FC⟩,
     ⟨nat_lit 0x1FE, nat_lit 0x1FE⟩, ⟨nat_lit 0x200, nat_lit 0x200⟩,
     ⟨nat_lit 0x202, nat_lit 0x202⟩, ⟨nat_lit 0x204, nat_lit 0x204⟩,
     ⟨nat_lit 0x206, nat_lit 0x206⟩, ⟨nat_lit 0x208, nat_lit 0x208⟩,
     ⟨nat_lit 0x20A, nat_lit 0x20A⟩, ⟨nat_lit 0x20C, nat_lit 0x20C⟩,
     ⟨nat_lit 0x20E, nat_lit 0x20E⟩, ⟨nat_lit 0x210, nat_lit 0x210⟩,
     ⟨nat_lit 0x212, nat_lit 0x212⟩, ⟨nat_lit 0x214, nat_lit 0x214⟩,
     ⟨nat_lit 0x216, nat_lit 0x216⟩, ⟨nat_lit 0x218, nat_lit 0x218⟩,
     ⟨nat_lit 0x21A, nat_lit 0x21A⟩, ⟨nat_lit 0x21C, nat_lit 0x21C⟩,
     ⟨nat_lit 0x21E, nat_lit 0x21E⟩, ⟨nat_lit 0x220, nat_lit 0x220⟩,
     ⟨nat_lit 0x222, nat_lit 0x222⟩, ⟨nat_lit 0x224, nat_lit 0x224⟩,
     ⟨nat_lit 0x226, nat_lit 0x226⟩, ⟨nat_lit 0x228, nat_lit 0x228⟩,
     ⟨nat_lit 0x22A, nat_lit 0x22A⟩, ⟨nat_lit 0x22C, nat_lit 0x22C⟩,
     ⟨nat_lit 0x22E, nat_lit 0x22E⟩, ⟨nat_lit 0x230, nat_lit 0x230⟩,
     ⟨nat_lit 0x232, nat_lit 0x232⟩, ⟨nat_lit 0x23A, nat_lit 0x23B⟩,
     ⟨nat_lit 0x23D, nat_lit 0x23E⟩, ⟨nat_lit 0x241, nat_lit 0x241⟩,
     ⟨nat_lit 0x243, nat_lit 0x246⟩, ⟨nat_lit 0x248, nat_lit 0x248⟩,
     ⟨nat_lit 0x24A, nat_lit 0x24A⟩, ⟨nat_lit 0x24C, nat_lit 0x24C⟩,
     ⟨nat_lit 0x24E, nat_lit 0x24E⟩, ⟨nat_lit 0x370, nat_lit 0x370⟩,
     ⟨nat_lit 0x372, nat_lit 0x372⟩, ⟨nat_lit 0x376, nat_lit 0x376⟩,
     ⟨nat_lit 0x37F, nat_lit 0x37F⟩, ⟨nat_lit 0x386, nat_lit 0x386⟩,
     ⟨nat_lit 0x388, nat_lit 0x38A⟩, ⟨nat_lit 0x38C, nat_lit 0x38C⟩,
     ⟨nat_lit 0x38E, nat_lit 0x38F⟩, ⟨nat_lit 0x391, nat_lit 0x3A1⟩,
     ⟨nat_lit 0x3A3, nat_lit 0x3AB⟩, ⟨nat_lit 0x3CF, nat_lit 0x3CF⟩,
     ⟨nat_lit 0x3D2, nat_lit 0x3D4⟩, ⟨nat_lit 0x3D8, nat_lit 0x3D8⟩,
     ⟨nat_lit 0x3DA, nat_lit 0x3DA⟩, ⟨nat_lit 0x3DC, nat_lit 0x3DC⟩,
     ⟨nat_lit 0x3DE, nat_lit 0x3DE⟩, ⟨nat_lit 0x3E0, nat_lit 0x3E0⟩,
     ⟨nat_lit 0x3E2, nat_lit 0x3E2⟩, ⟨nat_lit 0x3E4, nat_lit 0x3E4⟩,
     ⟨nat_lit 0x3E6, nat_lit 0x3E6⟩, ⟨nat_lit 0x3E8, nat_lit 0x3E8⟩,
     ⟨nat_lit 0x3EA, nat_lit 0x3EA⟩, ⟨nat_lit 0x3EC, nat_lit 0x3EC⟩,
     ⟨nat_lit 0x3EE, nat_lit 0x3EE⟩, ⟨nat_lit 0x3F4, nat_lit 0x3F4⟩,
     ⟨nat_lit 0x3F7, nat_lit 0x3F7⟩, ⟨nat_lit 0x3F9, nat_lit 0x3FA⟩,
     ⟨nat_lit 0x3FD, nat_lit 0x42F⟩, ⟨nat_lit 0x460, nat_lit 0x460⟩,
     ⟨nat_lit 0x462, nat_lit 0x462⟩, ⟨nat_lit 0x464, nat_lit 0x464⟩,
     ⟨nat_lit 0x466, nat_lit 0x466⟩, ⟨nat_lit 0x468, nat_lit 0x468⟩,
     ⟨nat_lit 0x46A, nat_lit 0x46A⟩, ⟨nat_lit 0x46C, nat_lit 0x46C⟩,
     ⟨nat_lit 0x46E, nat_lit 0x46E⟩, ⟨nat_lit 0x470, nat_lit 0x470⟩,
     ⟨nat_lit 0x472, nat_lit 0x472⟩, ⟨nat_lit 0x474, nat_lit 0x474⟩,
     ⟨nat_lit 0x476, nat_lit 0x476⟩, ⟨nat_lit 0x478, nat_lit 0x478⟩,
     ⟨nat_lit 0x47A, nat_lit 0x47A⟩, ⟨nat_lit 0x47C, nat_lit 0x47C⟩,
     ⟨nat_lit 0x47E, nat_lit 0x47E⟩, ⟨nat_lit 0x480, nat_lit 0x480⟩,
     ⟨nat_lit 0x48A, nat_lit 0x48A⟩, ⟨nat_lit 0x48C, nat_lit 0x48C⟩,
     ⟨nat_lit 0x48E, nat_lit 0x48E⟩, ⟨nat_lit 0x490, nat_lit 0x490⟩,
     ⟨nat_lit 0x492, nat_lit 0x492⟩, ⟨nat_lit 0x494, nat_lit 0x494⟩,
     ⟨nat_lit 0x496, nat_lit 0x496⟩, ⟨nat_lit 0x498, nat_lit 0x498⟩,
     ⟨nat_lit 0x49A, nat_lit 0x49A⟩, ⟨nat_lit 0x49C, nat_lit 0x49C⟩,
     ⟨nat_lit 0x49E, nat_lit 0x49E⟩, ⟨nat_lit 0x4A0, nat_lit 0x4A0⟩,
     ⟨nat_lit 0x4A2, nat_lit 0x4A2⟩, ⟨nat_lit 0x4A4, nat_lit 0x4A4⟩,
     ⟨nat_lit 0x4A6, nat_lit 0x4A6⟩, ⟨nat_lit 0x4A8, nat_lit 0x4A8⟩,
     ⟨nat_lit 0x4AA, nat_lit 0x4AA⟩, ⟨nat_lit 0x4AC, nat_lit 0x4AC⟩,
     ⟨nat_lit 0x4AE, nat_lit 0x4AE⟩, ⟨nat_lit 0x4B0, nat_lit 0x4B0⟩,
     ⟨nat_lit 0x4B2, nat_lit 0x4B2⟩, ⟨nat_lit 0x4B4, nat_lit 0x4B4⟩,
     ⟨nat_lit 0x4B6, nat_lit 0x4B6⟩, ⟨nat_lit 0x4B8, nat_lit 0x4B8⟩,
     ⟨nat_lit 0x4BA, nat_lit 0x4BA⟩, ⟨nat_lit 0x4BC, nat_lit 0x4BC⟩,
     ⟨nat_lit 0x4BE, nat_lit 0x4BE⟩, ⟨nat_lit 0x4C0, nat_lit 0x4C1⟩,
     ⟨nat_lit 0x4C3, nat_lit 0x4C3⟩, ⟨nat_lit 0x4C5, nat_lit 0x4C5⟩,
     ⟨nat_lit 0x4C7, nat_lit 0x4C7⟩, ⟨nat_lit 0x4C9, nat_lit 0x4C9⟩,
     ⟨nat_lit 0x4CB, nat_lit 0x4CB⟩, ⟨nat_lit 0x4CD, nat_lit 0x4CD⟩,
     ⟨nat_lit 0x4D0, nat_lit 0x4D0⟩, ⟨nat_lit 0x4D2, nat_lit 0x4D2⟩,
     ⟨nat_lit 0x4D4, nat_lit 0x4D4⟩, ⟨nat_lit 0x4D6, nat_lit 0x4D6⟩,
     ⟨nat_lit 0x4D8, nat_lit 0x4D8⟩, ⟨nat_lit 0x4DA, nat_lit 0x4DA⟩,
     ⟨nat_lit 0x4DC, nat_lit 0x4DC⟩, ⟨nat_lit 0x4DE, nat_lit 0x4DE⟩,
     ⟨nat_lit 0x4E0, nat_lit 0x4E0⟩, ⟨nat_lit 0x4E2, nat_lit 0x4E2⟩,
     ⟨nat_lit 0x4E4, nat_lit 0x4E4⟩, ⟨nat_lit 0x4E6, nat_lit 0x4E6⟩,
     ⟨nat_lit 0x4E8, nat_lit 0x4E8⟩, ⟨nat_lit 0x4EA, nat_lit 0x4EA⟩,
     ⟨nat_lit 0x4EC, nat_lit 0x4EC⟩, ⟨nat_lit 0x4EE, nat_lit 0x4EE⟩,
     ⟨nat_lit 0x4F0, nat_lit 0x4F0⟩, ⟨nat_lit 0x4F2, nat_lit 0x4F2⟩,
     ⟨nat_lit 0x4F4, nat_lit 0x4F4⟩, ⟨nat_lit 0x4F6, nat_lit 0x4F6⟩,
     ⟨nat_lit 0x4F8, nat_lit 0x4F8⟩, ⟨nat_lit 0x4FA, nat_lit 0x4FA⟩,
     ⟨nat_lit 0x4FC, nat_lit 0x4FC⟩, ⟨nat_lit 0x4FE, nat_lit 0x4FE⟩,
     ⟨nat_lit 0x500, nat_lit 0x500⟩, ⟨nat_lit 0x502, nat_lit 0x502⟩,
     ⟨nat_lit 0x504, nat_lit 0x504⟩, ⟨nat_lit 0x506, nat_lit 0x506⟩,
     ⟨nat_lit 0x508, nat_lit 0x508⟩, ⟨nat_lit 0x50A, nat_lit 0x50A⟩,
     ⟨nat_lit 0x50C, nat_lit 0x50C⟩, ⟨nat_lit 0x50E, nat_lit 0x50E⟩,
     ⟨nat_lit 0x510, nat_lit 0x510⟩, ⟨nat_lit 0x512, nat_lit 0x512⟩,
     ⟨nat_lit 0x514, nat_lit 0x514⟩, ⟨nat_lit 0x516, nat_lit 0x516⟩,
     ⟨nat_lit 0x518, nat_lit 0x518⟩, ⟨nat_lit 0x51A, nat_lit 0x51A⟩,
     ⟨nat_lit 0x51C, nat_lit 0x51C⟩, ⟨nat_lit 0x51E, nat_lit 0x51E⟩,
     ⟨nat_lit 0x520, nat_lit 0x520⟩, ⟨nat_lit 0x522, nat_lit 0x522⟩,
     ⟨nat_lit 0x524, nat_lit 0x524⟩, ⟨nat_lit 0x526, nat_lit 0x526⟩,
     ⟨nat_lit 0x528, nat_lit 0x528⟩, ⟨nat_lit 0x52A, nat_lit 0x52A⟩,
     ⟨nat_lit 0x52C, nat_lit 0x52C⟩, ⟨nat_lit 0x52E, nat_lit 0x52E⟩,
     ⟨nat_lit 0x531, nat_lit 0x556⟩, ⟨nat_lit 0x10A0, nat_lit 0x10C5⟩,
     ⟨nat_lit 0x10C7, nat_lit 0x10C7⟩, ⟨nat_lit 0x10CD, nat_lit 0x10CD⟩,
     ⟨nat_lit 0x13A0, nat_lit 0x13F5⟩, ⟨nat_lit 0x1C89, nat_lit 0x1C89⟩,
     ⟨nat_lit 0x1C90, nat_lit 0x1CBA⟩, ⟨nat_lit 0x1CBD, nat_lit 0x1CBF⟩,
     ⟨nat_lit 0x1E00, nat_lit 0x1E00⟩, ⟨nat_lit 0x1E02, nat_lit 0x1E02⟩,
     ⟨nat_lit 0x1E04, nat_lit 0x1E04⟩, ⟨nat_lit 0x1E06, nat_lit 0x1E06⟩,
     ⟨nat_lit 0x1E08, nat_lit 0x1E08⟩, ⟨nat_lit 0x1E0A, nat_lit 0x1E0A⟩,
     ⟨nat_lit 0x1E0C, nat_lit 0x1E0C⟩, ⟨nat_lit 0x1E0E, nat_lit 0x1E0E⟩,
     ⟨nat_lit 0x1E10, nat_lit 0x1E10⟩, ⟨nat_lit 0x1E12, nat_lit 0x1E12⟩,
     ⟨nat_lit 0x1E14, nat_lit 0x1E14⟩, ⟨nat_lit 0x1E16, nat_lit 0x1E16⟩,
     ⟨nat_lit 0x1E18, nat_lit 0x1E18⟩, ⟨nat_lit 0x1E1A, nat_lit 0x1E1A⟩,
     ⟨nat_lit 0x1E1C, nat_lit 0x1E1C⟩, ⟨nat_lit 0x1E1E, nat_lit 0x1E1E⟩,
     ⟨nat_lit 0x1E20, nat_lit 0x1E20⟩, ⟨nat_lit 0x1E22, nat_lit 0x1E22⟩,
     ⟨nat_lit 0x1E24, nat_lit 0x1E24⟩, ⟨nat_lit 0x1E26, nat_lit 0x1E26⟩,
     ⟨nat_lit 0x1E28, nat_lit 0x1E28⟩, ⟨nat_lit 0x1E2A, nat_lit 0x1E2A⟩,
     ⟨nat_lit 0x1E2C, nat_lit 0x1E2C⟩, ⟨nat_lit 0x1E2E, nat_lit 0x1E2E⟩,
     ⟨nat_lit 0x1E30, nat_lit 0x1E30⟩, ⟨nat_lit 0x1E32, nat_lit 0x1E32⟩,
     ⟨nat_lit 0x1E34, nat_lit 0x1E34⟩, ⟨nat_lit 0x1E36, nat_lit 0x1E36⟩,
     ⟨nat_lit 0x1E38, nat_lit 0x1E38⟩, ⟨nat_lit 0x1E3A, nat_lit 0x1E3A⟩,
     ⟨nat_lit 0x1E3C, nat_lit 0x1E3C⟩, ⟨nat_lit 0x1E3E, nat_lit 0x1E3E⟩,
     ⟨nat_lit 0x1E40, nat_lit 0x1E40⟩, ⟨nat_lit 0x1E42, nat_lit 0x1E42⟩,
     ⟨nat_lit 0x1E44, nat_lit 0x1E44⟩, ⟨nat_lit 0x1E46, nat_lit 0x1E46⟩,
     ⟨nat_lit 0x1E48, nat_lit 0x1E48⟩, ⟨nat_lit 0x1E4A, nat_lit 0x1E4A⟩,
     ⟨nat_lit 0x1E4C, nat_lit 0x1E4C⟩, ⟨nat_lit 0x1E4E, nat_lit 0x1E4E⟩,
     ⟨nat_lit 0x1E50, nat_lit 0x1E50⟩, ⟨nat_lit 0x1E52, nat_lit 0x1E52⟩,
     ⟨nat_lit 0x1E54, nat_lit 0x1E54⟩, ⟨nat_lit 0x1E56, nat_lit 0x1E56⟩,
     ⟨nat_lit 0x1E58, nat_lit 0x1E58⟩, ⟨nat_lit 0x1E5A, nat_lit 0x1E5A⟩,
     ⟨nat_lit 0x1E5C, nat_lit 0x1E5C⟩, ⟨nat_lit 0x1E5E, nat_lit 0x1E5E⟩,
     ⟨nat_lit 0x1E60, nat_lit 0x1E60⟩, ⟨nat_lit 0x1E62, nat_lit 0x1E62⟩,
     ⟨nat_lit 0x1E64, nat_lit 0x1E64⟩, ⟨nat_lit 0x1E66, nat_lit 0x1E66⟩,
     ⟨nat_lit 0x1E68, nat_lit 0x1E68⟩, ⟨nat_lit 0x1E6A, nat_lit 0x1E6A⟩,
     ⟨nat_lit 0x1E6C, nat_lit 0x1E6C⟩, ⟨nat_lit 0x1E6E, nat_lit 0x1E6E⟩,
     ⟨nat_lit 0x1E70, nat_lit 0x1E70⟩, ⟨nat_lit 0x1E72, nat_lit 0x1E72⟩,
     ⟨nat_lit 0x1E74, nat_lit 0x1E74⟩, ⟨nat_lit 0x1E76, nat_lit 0x1E76⟩,
     ⟨nat_lit 0x1E78, nat_lit 0x1E78⟩, ⟨nat_lit 0x1E7A, nat_lit 0x1E7A⟩,
     ⟨nat_lit 0x1E7C, nat_lit 0x1E7C⟩, ⟨nat_lit 0x1E7E, nat_lit 0x1E7E⟩,
     ⟨nat_lit 0x1E80, nat_lit 0x1E80⟩, ⟨nat_lit 0x1E82, nat_lit 0x1E82⟩,
     ⟨nat_lit 0x1E84, nat_lit 0x1E84⟩, ⟨nat_lit 0x1E86, nat_lit 0x1E86⟩,
     ⟨nat_lit 0x1E88, nat_lit 0x1E88⟩, ⟨nat_lit 0x1E8A, nat_lit 0x1E8A⟩,
     ⟨nat_lit 0x1E8C, nat_lit 0x1E8C⟩, ⟨nat_lit 0x1E8E, nat_lit 0x1E8E⟩,
     ⟨nat_lit 0x1E90, nat_lit 0x1E90⟩, ⟨nat_lit 0x1E92, nat_lit 0x1E92⟩,
     ⟨nat_lit 0x1E94, nat_lit 0x1E94⟩, ⟨nat_lit 0x1E9E, nat_lit 0x1E9E⟩,
     ⟨nat_lit 0x1EA0, nat_lit 0x1EA0⟩, ⟨nat_lit 0x1EA2, nat_lit 0x1EA2⟩,
     ⟨nat_lit 0x1EA4, nat_lit 0x1EA4⟩, ⟨nat_lit 0x1EA6, nat_lit 0x1EA6⟩,
     ⟨nat_lit 0x1EA8, nat_lit 0x1EA8⟩, ⟨nat_lit 0x1EAA, nat_lit 0x1EAA⟩,
     ⟨nat_lit 0x1EAC, nat_lit 0x1EAC⟩, ⟨nat_lit 0x1EAE, nat_lit 0x1EAE⟩,
     ⟨nat_lit 0x1EB0, nat_lit 0x1EB0⟩, ⟨nat_lit 0x1EB2, nat_lit 0x1EB2⟩,
     ⟨nat_lit 0x1EB4, nat_lit 0x1EB4⟩, ⟨nat_lit 0x1EB6, nat_lit 0x1EB6⟩,
     ⟨nat_lit 0x1EB8, nat_lit 0x1EB8⟩, ⟨nat_lit 0x1EBA, nat_lit 0x1EBA⟩,
     ⟨nat_lit 0x1EBC, nat_lit 0x1EBC⟩, ⟨nat_lit 0x1EBE, nat_lit 0x1EBE⟩,
     ⟨nat_lit 0x1EC0, nat_lit 0x1EC0⟩, ⟨nat_lit 0x1EC2, nat_lit 0x1EC2⟩,
     ⟨nat_lit 0x1EC4, nat_lit 0x1EC4⟩, ⟨nat_lit 0x1EC6, nat_lit 0x1EC6⟩,
     ⟨nat_lit 0x1EC8, nat_lit 0x1EC8⟩, ⟨nat_lit 0x1ECA, nat_lit 0x1ECA⟩,
     ⟨nat_lit 0x1ECC, nat_lit 0x1ECC⟩, ⟨nat_lit 0x1ECE, nat_lit 0x1ECE⟩,
     ⟨nat_lit 0x1ED0, nat_lit 0x1ED0⟩, ⟨nat_lit 0x1ED2, nat_lit 0x1ED2⟩,
     ⟨nat_lit 0x1ED4, nat_lit 0x1ED4⟩, ⟨nat_lit 0x1ED6, nat_lit 0x1ED6⟩,
     ⟨nat_lit 0x1ED8, nat_lit 0x1ED8⟩, ⟨nat_lit 0x1EDA, nat_lit 0x1EDA⟩,
     ⟨nat_lit 0x1EDC, nat_lit 0x1EDC⟩, ⟨nat_lit 0x1EDE, nat_lit 0x1EDE⟩,
     ⟨nat_lit 0x1EE0, nat_lit 0x1EE0⟩, ⟨nat_lit 0x1EE2, nat_lit 0x1EE2⟩,
     ⟨nat_lit 0x1EE4, nat_lit 0x1EE4⟩, ⟨nat_lit 0x1EE6, nat_lit 0x1EE6⟩,
     ⟨nat_lit 0x1EE8, nat_lit 0x1EE8⟩, ⟨nat_lit 0x1EEA, nat_lit 0x1EEA⟩,
     ⟨nat_lit 0x1EEC, nat_lit 0x1EEC⟩, ⟨nat_lit 0x1EEE, nat_lit 0x1EEE⟩,
     ⟨nat_lit 0x1EF0, nat_lit 0x1EF0⟩, ⟨nat_lit 0x1EF2, nat_lit 0x1EF2⟩,
     ⟨nat_lit 0x1EF4, nat_lit 0x1EF4⟩, ⟨nat_lit 0x1EF6, nat_lit 0x1EF6⟩,
     ⟨nat_lit 0x1EF8, nat_lit 0x1EF8⟩, ⟨nat_lit 0x1EFA, nat_lit 0x1EFA⟩,
     ⟨nat_lit 0x1EFC, nat_lit 0x1EFC⟩, ⟨nat_lit 0x1EFE, nat_lit 0x1EFE⟩,
     ⟨nat_lit 0x1F08, nat_lit 0x1F0F⟩, ⟨nat_lit 0x1F18, nat_lit 0x1F1D⟩,
     ⟨nat_lit 0x1F28, nat_lit 0x1F2F⟩, ⟨nat_lit 0x1F38, nat_lit 0x1F3F⟩,
     ⟨nat_lit 0x1F48, nat_lit 0x1F4D⟩, ⟨nat_lit 0x1F59, nat_lit 0x1F59⟩,
     ⟨nat_lit 0x1F5B, nat_lit 0x1F5B⟩, ⟨nat_lit 0x1F5D, nat_lit 0x1F5D⟩,
     ⟨nat_lit 0x1F5F, nat_lit 0x1F5F⟩, ⟨nat_lit 0x1F68, nat_lit 0x1F6F⟩,
     ⟨nat_lit 0x1FB8, nat_lit 0x1FBB⟩, ⟨nat_lit 0x1FC8, nat_lit 0x1FCB⟩,
     ⟨nat_lit 0x1FD8, nat_lit 0x1FDB⟩, ⟨nat_lit 0x1FE8, nat_lit 0x1FEC⟩,
     ⟨nat_lit 0x1FF8, nat_lit 0x1FFB⟩, ⟨nat_lit 0x2102, nat_lit 0x2102⟩,
     ⟨nat_lit 0x2107, nat_lit 0x2107⟩, ⟨nat_lit 0x210B, nat_lit 0x210D⟩,
     ⟨nat_lit 0x2110, nat_lit 0x2112⟩, ⟨nat_lit 0x2115, nat_lit 0x2115⟩,
     ⟨nat_lit 0x2119, nat_lit 0x211D⟩, ⟨nat_lit 0x2124, nat_lit 0x2124⟩,
     ⟨nat_lit 0x2126, nat_lit 0x2126⟩, ⟨nat_lit 0x2128, nat_lit 0x2128⟩,
     ⟨nat_lit 0x212A, nat_lit 0x212D⟩, ⟨nat_lit 0x2130, nat_lit 0x2133⟩,
     ⟨nat_lit 0x213E, nat_lit 0x213F⟩, ⟨nat_lit 0x2145, nat_lit 0x2145⟩,
     ⟨nat_lit 0x2183, nat_lit 0x2183⟩, ⟨nat_lit 0x2C00, nat_lit 0x2C2F⟩,
     ⟨nat_lit 0x2C60, nat_lit 0x2C60⟩, ⟨nat_lit 0x2C62, nat_lit 0x2C64⟩,
     ⟨nat_lit 0x2C67, nat_lit 0x2C67⟩, ⟨nat_lit 0x2C69, nat_lit 0x2C69⟩,
     ⟨nat_lit 0x2C6B, nat_lit 0x2C6B⟩, ⟨nat_lit 0x2C6D, nat_lit 0x2C70⟩,
     ⟨nat_lit 0x2C72, nat_lit 0x2C72⟩, ⟨nat_lit 0x2C75, nat_lit 0x2C75⟩,
     ⟨nat_lit 0x2C7E, nat_lit 0x2C80⟩, ⟨nat_lit 0x2C82, nat_lit 0x2C82⟩,
     ⟨nat_lit 0x2C84, nat_lit 0x2C84⟩, ⟨nat_lit 0x2C86, nat_lit 0x2C86⟩,
     ⟨nat_lit 0x2C88, nat_lit 0x2C88⟩, ⟨nat_lit 0x2C8A, nat_lit 0x2C8A⟩,
     ⟨nat_lit 0x2C8C, nat_lit 0x2C8C⟩, ⟨nat_lit 0x2C8E, nat_lit 0x2C8E⟩,
     ⟨nat_lit 0x2C90, nat_lit 0x2C90⟩, ⟨nat_lit 0x2C92, nat_lit 0x2C92⟩,
     ⟨nat_lit 0x2C94, nat_lit 0x2C94⟩, ⟨nat_lit 0x2C96, nat_lit 0x2C96⟩,
     ⟨nat_lit 0x2C98, nat_lit 0x2C98⟩, ⟨nat_lit 0x2C9A, nat_lit 0x2C9A⟩,
     ⟨nat_lit 0x2C9C, nat_lit 0x2C9C⟩, ⟨nat_lit 0x2C9E, nat_lit 0x2C9E⟩,
     ⟨nat_lit 0x2CA0, nat_lit 0x2CA0⟩, ⟨nat_lit 0x2CA2, nat_lit 0x2CA2⟩,
     ⟨nat_lit 0x2CA4, nat_lit 0x2CA4⟩, ⟨nat_lit 0x2CA6, nat_lit 0x2CA6⟩,
     ⟨nat_lit 0x2CA8, nat_lit 0x2CA8⟩, ⟨nat_lit 0x2CAA, nat_lit 0x2CAA⟩,
     ⟨nat_lit 0x2CAC, nat_lit 0x2CAC⟩, ⟨nat_lit 0x2CAE, nat_lit 0x2CAE⟩,
     ⟨nat_lit 0x2CB0, nat_lit 0x2CB0⟩, ⟨nat_lit 0x2CB2, nat_lit 0x2CB2⟩,
     ⟨nat_lit 0x2CB4, nat_lit 0x2CB4⟩, ⟨nat_lit 0x2CB6, nat_lit 0x2CB6⟩,
     ⟨nat_lit 0x2CB8, nat_lit 0x2CB8⟩, ⟨nat_lit 0x2CBA, nat_lit 0x2CBA⟩,
     ⟨nat_lit 0x2CBC, nat_lit 0x2CBC⟩, ⟨nat_lit 0x2CBE, nat_lit 0x2CBE⟩,
     ⟨nat_lit 0x2CC0, nat_lit 0x2CC0⟩, ⟨nat_lit 0x2CC2, nat_lit 0x2CC2⟩,
     ⟨nat_lit 0x2CC4, nat_lit 0x2CC4⟩, ⟨nat_lit 0x2CC6, nat_lit 0x2CC6⟩,
     ⟨nat_lit 0x2CC8, nat_lit 0x2CC8⟩, ⟨nat_lit 0x2CCA, nat_lit 0x2CCA⟩,
     ⟨nat_lit 0x2CCC, nat_lit 0x2CCC⟩, ⟨nat_lit 0x2CCE, nat_lit 0x2CCE⟩,
     ⟨nat_lit 0x2CD0, nat_lit 0x2CD0⟩, ⟨nat_lit 0x2CD2, nat_lit 0x2CD2⟩,
     ⟨nat_lit 0x2CD4, nat_lit 0x2CD4⟩, ⟨nat_lit 0x2CD6, nat_lit 0x2CD6⟩,
     ⟨nat_lit 0x2CD8, nat_lit 0x2CD8⟩, ⟨nat_lit 0x2CDA, nat_lit 0x2CDA⟩,
     ⟨nat_lit 0x2CDC, nat_lit 0x2CDC⟩, ⟨nat_lit 0x2CDE, nat_lit 0x2CDE⟩,
     ⟨nat_lit 0x2CE0, nat_lit 0x2CE0⟩, ⟨nat_lit 0x2CE2, nat_lit 0x2CE2⟩,
     ⟨nat_lit 0x2CEB, nat_lit 0x2CEB⟩, ⟨nat_lit 0x2CED, nat_lit 0x2CED⟩,
     ⟨nat_lit 0x2CF2, nat_lit 0x2CF2⟩, ⟨nat_lit 0xA640, nat_lit 0xA640⟩,
     ⟨nat_lit 0xA642, nat_lit 0xA642⟩, ⟨nat_lit 0xA644, nat_lit 0xA644⟩,
     ⟨nat_lit 0xA646, nat_lit 0xA646⟩, ⟨nat_lit 0xA648, nat_lit 0xA648⟩,
     ⟨nat_lit 0xA64A, nat_lit 0xA64A⟩, ⟨nat_lit 0xA64C, nat_lit 0xA64C⟩,
     ⟨nat_lit 0xA64E, nat_lit 0xA64E⟩, ⟨nat_lit 0xA650, nat_lit 0xA650⟩,
     ⟨nat_lit 0xA652, nat_lit 0xA652⟩, ⟨nat_lit 0xA654, nat_lit 0xA654⟩,
     ⟨nat_lit 0xA656, nat_lit 0xA656⟩, ⟨nat_lit 0xA658, nat_lit 0xA658⟩,
     ⟨nat_lit 0xA65A, nat_lit 0xA65A⟩, ⟨nat_lit 0xA65C, nat_lit 0xA65C⟩,
     ⟨nat_lit 0xA65E, nat_lit 0xA65E⟩, ⟨nat_lit 0xA660, nat_lit 0xA660⟩,
     ⟨nat_lit 0xA662, nat_lit 0xA662⟩, ⟨nat_lit 0xA664, nat_lit 0xA664⟩,
     ⟨nat_lit 0xA666, nat_lit 0xA666⟩, ⟨nat_lit 0xA668, nat_lit 0xA668⟩,
     ⟨nat_lit 0xA66A, nat_lit 0xA66A⟩, ⟨nat_lit 0xA66C, nat_lit 0xA66C⟩,
     ⟨nat_lit 0xA680, nat_lit 0xA680⟩, ⟨nat_lit 0xA682, nat_lit 0xA682⟩,
     ⟨nat_lit 0xA684, nat_lit 0xA684⟩, ⟨nat_lit 0xA686, nat_lit 0xA686⟩,
     ⟨nat_lit 0xA688, nat_lit 0xA688⟩, ⟨nat_lit 0xA68A, nat_lit 0xA68A⟩,
     ⟨nat_lit 0xA68C, nat_lit 0xA68C⟩, ⟨nat_lit 0xA68E, nat_lit 0xA68E⟩,
     ⟨nat_lit 0xA690, nat_lit 0xA690⟩, ⟨nat_lit 0xA692, nat_lit 0xA692⟩,
     ⟨nat_lit 0xA694, nat_lit 0xA694⟩, ⟨nat_lit 0xA696, nat_lit 0xA696⟩,
     ⟨nat_lit 0xA698, nat_lit 0xA698⟩, ⟨nat_lit 0xA69A, nat_lit 0xA69A⟩,
     ⟨nat_lit 0xA722, nat_lit 0xA722⟩, ⟨nat_lit 0xA724, nat_lit 0xA724⟩,
     ⟨nat_lit 0xA726, nat_lit 0xA726⟩, ⟨nat_lit 0xA728, nat_lit 0xA728⟩,
     ⟨nat_lit 0xA72A, nat_lit 0xA72A⟩, ⟨nat_lit 0xA72C, nat_lit 0xA72C⟩,
     ⟨nat_lit 0xA72E, nat_lit 0xA72E⟩, ⟨nat_lit 0xA732, nat_lit 0xA732⟩,
     ⟨nat_lit 0xA734, nat_lit 0xA734⟩, ⟨nat_lit 0xA736, nat_lit 0xA736⟩,
     ⟨nat_lit 0xA738, nat_lit 0xA738⟩, ⟨nat_lit 0xA73A, nat_lit 0xA73A⟩,
     ⟨nat_lit 0xA73C, nat_lit 0xA73C⟩, ⟨nat_lit 0xA73E, nat_lit 0xA73E⟩,
     ⟨nat_lit 0xA740, nat_lit 0xA740⟩, ⟨nat_lit 0xA742, nat_lit 0xA742⟩,
     ⟨nat_lit 0xA744, nat_lit 0xA744⟩, ⟨nat_lit 0xA746, nat_lit 0xA746⟩,
     ⟨nat_lit 0xA748, nat_lit 0xA748⟩, ⟨nat_lit 0xA74A, nat_lit 0xA74A⟩,
     ⟨nat_lit 0xA74C, nat_lit 0xA74C⟩, ⟨nat_lit 0xA74E, nat_lit 0xA74E⟩,
     ⟨nat_lit 0xA750, nat_lit 0xA750⟩, ⟨nat_lit 0xA752, nat_lit 0xA752⟩,
     ⟨nat_lit 0xA754, nat_lit 0xA754⟩, ⟨nat_lit 0xA756, nat_lit 0xA756⟩,
     ⟨nat_lit 0xA758, nat_lit 0xA758⟩, ⟨nat_lit 0xA75A, nat_lit 0xA75A⟩,
     ⟨nat_lit 0xA75C, nat_lit 0xA75C⟩, ⟨nat_lit 0xA75E, nat_lit 0xA75E⟩,
     ⟨nat_lit 0xA760, nat_lit 0xA760⟩, ⟨nat_lit 0xA762, nat_lit 0xA762⟩,
     ⟨nat_lit 0xA764, nat_lit 0xA764⟩, ⟨nat_lit 0xA766, nat_lit 0xA766⟩,
     ⟨nat_lit 0xA768, nat_lit 0xA768⟩, ⟨nat_lit 0xA76A, nat_lit 0xA76A⟩,
     ⟨nat_lit 0xA76C, nat_lit 0xA76C⟩, ⟨nat_lit 0xA76E, nat_lit 0xA76E⟩,
     ⟨nat_lit 0xA779, nat_lit 0xA779⟩, ⟨nat_lit 0xA77B, nat_lit 0xA77B⟩,
     ⟨nat_lit 0xA77D, nat_lit 0xA77E⟩, ⟨nat_lit 0xA780, nat_lit 0xA780⟩,
     ⟨nat_lit 0xA782, nat_lit 0xA782⟩, ⟨nat_lit 0xA784, nat_lit 0xA784⟩,
     ⟨nat_lit 0xA786, nat_lit 0xA786⟩, ⟨nat_lit 0xA78B, nat_lit 0xA78B⟩,
     ⟨nat_lit 0xA78D, nat_lit 0xA78D⟩, ⟨nat_lit 0xA790, nat_lit 0xA790⟩,
     ⟨nat_lit 0xA792, nat_lit 0xA792⟩, ⟨nat_lit 0xA796, nat_lit 0xA796⟩,
     ⟨nat_lit 0xA798, nat_lit 0xA798⟩, ⟨nat_lit 0xA79A, nat_lit 0xA79A⟩,
     ⟨nat_lit 0xA79C, nat_lit 0xA79C⟩, ⟨nat_lit 0xA79E, nat_lit 0xA79E⟩,
     ⟨nat_lit 0xA7A0, nat_lit 0xA7A0⟩, ⟨nat_lit 0xA7A2, nat_lit 0xA7A2⟩,
     ⟨nat_lit 0xA7A4, nat_lit 0xA7A4⟩, ⟨nat_lit 0xA7A6, nat_lit 0xA7A6⟩,
     ⟨nat_lit 0xA7A8, nat_lit 0xA7A8⟩, ⟨nat_lit 0xA7AA, nat_lit 0xA7AE⟩,
     ⟨nat_lit 0xA7B0, nat_lit 0xA7B4⟩, ⟨nat_lit 0xA7B6, nat_lit 0xA7B6⟩,
     ⟨nat_lit 0xA7B8, nat_lit 0xA7B8⟩, ⟨nat_lit 0xA7BA, nat_lit 0xA7BA⟩,
     ⟨nat_lit 0xA7BC, nat_lit 0xA7BC⟩, ⟨nat_lit 0xA7BE, nat_lit 0xA7BE⟩,
     ⟨nat_lit 0xA7C0, nat_lit 0xA7C0⟩, ⟨nat_lit 0xA7C2, nat_lit 0xA7C2⟩,
     ⟨nat_lit 0xA7C4, nat_lit 0xA7C7⟩, ⟨nat_lit 0xA7C9, nat_lit 0xA7C9⟩,
     ⟨nat_lit 0xA7CB, nat_lit 0xA7CC⟩, ⟨nat_lit 0xA7D0, nat_lit 0xA7D0⟩,
     ⟨nat_lit 0xA7D6, nat_lit 0xA7D6⟩, ⟨nat_lit 0xA7D8, nat_lit 0xA7D8⟩,
     ⟨nat_lit 0xA7DA, nat_lit 0xA7DA⟩, ⟨nat_lit 0xA7DC, nat_lit 0xA7DC⟩,
     ⟨nat_lit 0xA7F5, nat_lit 0xA7F5⟩, ⟨nat_lit 0xFF21, nat_lit 0xFF3A⟩,
     ⟨nat_lit 0x10400, nat_lit 0x10427⟩, ⟨nat_lit 0x104B0, nat_lit 0x104D3⟩,
     ⟨nat_lit 0x10570, nat_lit 0x1057A⟩, ⟨nat_lit 0x1057C, nat_lit 0x1058A⟩,
     ⟨nat_lit 0x1058C, nat_lit 0x10592⟩, ⟨nat_lit 0x10594, nat_lit 0x10595⟩,
     ⟨nat_lit 0x10C80, nat_lit 0x10CB2⟩, ⟨nat_lit 0x10D50, nat_lit 0x10D65⟩,
     ⟨nat_lit 0x118A0, nat_lit 0x118BF⟩, ⟨nat_lit 0x16E40, nat_lit 0x16E5F⟩,
     ⟨nat_lit 0x1D400, nat_lit 0x1D419⟩, ⟨nat_lit 0x1D434, nat_lit 0x1D44D⟩,
     ⟨nat_lit 0x1D468, nat_lit 0x1D481⟩, ⟨nat_lit 0x1D49C, nat_lit 0x1D49C⟩,
     ⟨nat_lit 0x1D49E, nat_lit 0x1D49F⟩, ⟨nat_lit 0x1D4A2, nat_lit 0x1D4A2⟩,
     ⟨nat_lit 0x1D4A5, nat_lit 0x1D4A6⟩, ⟨nat_lit 0x1D4A9, nat_lit 0x1D4AC⟩,
     ⟨nat_lit 0x1D4AE, nat_lit 0x1D4B5⟩, ⟨nat_lit 0x1D4D0, nat_lit 0x1D4E9⟩,
     ⟨nat_lit 0x1D504, nat_lit 0x1D505⟩, ⟨nat_lit 0x1D507, nat_lit 0x1D50A⟩,
     ⟨nat_lit 0x1D50D, nat_lit 0x1D514⟩, ⟨nat_lit 0x1D516, nat_lit 0x1D51C⟩,
     ⟨nat_lit 0x1D538, nat_lit 0x1D539⟩, ⟨nat_lit 0x1D53B, nat_lit 0x1D53E⟩,
     ⟨nat_lit 0x1D540, nat_lit 0x1D544⟩, ⟨nat_lit 0x1D546, nat_lit 0x1D546⟩,
     ⟨nat_lit 0x1D54A, nat_lit 0x1D550⟩, ⟨nat_lit 0x1D56C, nat_lit 0x1D585⟩,
     ⟨nat_lit 0x1D5A0, nat_lit 0x1D5B9⟩, ⟨nat_lit 0x1D5D4, nat_lit 0x1D5ED⟩,
     ⟨nat_lit 0x1D608, nat_lit 0x1D621⟩, ⟨nat_lit 0x1D63C, nat_lit 0x1D655⟩,
     ⟨nat_lit 0x1D670, nat_lit 0x1D689⟩, ⟨nat_lit 0x1D6A8, nat_lit 0x1D6C0⟩,
     ⟨nat_lit 0x1D6E2, nat_lit 0x1D6FA⟩, ⟨nat_lit 0x1D71C, nat_lit 0x1D734⟩,
     ⟨nat_lit 0x1D756, nat_lit 0x1D76E⟩, ⟨nat_lit 0x1D790, nat_lit 0x1D7A8⟩,
     ⟨nat_lit 0x1D7CA, nat_lit 0x1D7CA⟩, ⟨nat_lit 0x1E900, nat_lit 0x1E921⟩]
  | lowercaseLetter =>
    [⟨nat_lit 0x61, nat_lit 0x7A⟩, ⟨nat_lit 0xB5, nat_lit 0xB5⟩, ⟨nat_lit 0xDF, nat_lit 0xF6⟩,
     ⟨nat_lit 0xF8, nat_lit 0xFF⟩, ⟨nat_lit 0x101, nat_lit 0x101⟩, ⟨nat_lit 0x103, nat_lit 0x103⟩,
     ⟨nat_lit 0x105, nat_lit 0x105⟩, ⟨nat_lit 0x107, nat_lit 0x107⟩,
     ⟨nat_lit 0x109, nat_lit 0x109⟩, ⟨nat_lit 0x10B, nat_lit 0x10B⟩,
     ⟨nat_lit 0x10D, nat_lit 0x10D⟩, ⟨nat_lit 0x10F, nat_lit 0x10F⟩,
     ⟨nat_lit 0x111, nat_lit 0x111⟩, ⟨nat_lit 0x113, nat_lit 0x113⟩,
     ⟨nat_lit 0x115, nat_lit 0x115⟩, ⟨nat_lit 0x117, nat_lit 0x117⟩,
     ⟨nat_lit 0x119, nat_lit 0x119⟩, ⟨nat_lit 0x11B, nat_lit 0x11B⟩,
     ⟨nat_lit 0x11D, nat_lit 0x11D⟩, ⟨nat_lit 0x11F, nat_lit 0x11F⟩,
     ⟨nat_lit 0x121, nat_lit 0x121⟩, ⟨nat_lit 0x123, nat_lit 0x123⟩,
     ⟨nat_lit 0x125, nat_lit 0x125⟩, ⟨nat_lit 0x127, nat_lit 0x127⟩,
     ⟨nat_lit 0x129, nat_lit 0x129⟩, ⟨nat_lit 0x12B, nat_lit 0x12B⟩,
     ⟨nat_lit 0x12D, nat_lit 0x12D⟩, ⟨nat_lit 0x12F, nat_lit 0x12F⟩,
     ⟨nat_lit 0x131, nat_lit 0x131⟩, ⟨nat_lit 0x133, nat_lit 0x133⟩,
     ⟨nat_lit 0x135, nat_lit 0x135⟩, ⟨nat_lit 0x137, nat_lit 0x138⟩,
     ⟨nat_lit 0x13A, nat_lit 0x13A⟩, ⟨nat_lit 0x13C, nat_lit 0x13C⟩,
     ⟨nat_lit 0x13E, nat_lit 0x13E⟩, ⟨nat_lit 0x140, nat_lit 0x140⟩,
     ⟨nat_lit 0x142, nat_lit 0x142⟩, ⟨nat_lit 0x144, nat_lit 0x144⟩,
     ⟨nat_lit 0x146, nat_lit 0x146⟩, ⟨nat_lit 0x148, nat_lit 0x149⟩,
     ⟨nat_lit 0x14B, nat_lit 0x14B⟩, ⟨nat_lit 0x14D, nat_lit 0x14D⟩,
     ⟨nat_lit 0x14F, nat_lit 0x14F⟩, ⟨nat_lit 0x151, nat_lit 0x151⟩,
     ⟨nat_lit 0x153, nat_lit 0x153⟩, ⟨nat_lit 0x155, nat_lit 0x155⟩,
     ⟨nat_lit 0x157, nat_lit 0x157⟩, ⟨nat_lit 0x159, nat_lit 0x159⟩,
     ⟨nat_lit 0x15B, nat_lit 0x15B⟩, ⟨nat_lit 0x15D, nat_lit 0x15D⟩,
     ⟨nat_lit 0x15F, nat_lit 0x15F⟩, ⟨nat_lit 0x161, nat_lit 0x161⟩,
     ⟨nat_lit 0x163, nat_lit 0x163⟩, ⟨nat_lit 0x165, nat_lit 0x165⟩,
     ⟨nat_lit 0x167, nat_lit 0x167⟩, ⟨nat_lit 0x169, nat_lit 0x169⟩,
     ⟨nat_lit 0x16B, nat_lit 0x16B⟩, ⟨nat_lit 0x16D, nat_lit 0x16D⟩,
     ⟨nat_lit 0x16F, nat_lit 0x16F⟩, ⟨nat_lit 0x171, nat_lit 0x171⟩,
     ⟨nat_lit 0x173, nat_lit 0x173⟩, ⟨nat_lit 0x175, nat_lit 0x175⟩,
     ⟨nat_lit 0x177, nat_lit 0x177⟩, ⟨nat_lit 0x17A, nat_lit 0x17A⟩,
     ⟨nat_lit 0x17C, nat_lit 0x17C⟩, ⟨nat_lit 0x17E, nat_lit 0x180⟩,
     ⟨nat_lit 0x183, nat_lit 0x183⟩, ⟨nat_lit 0x185, nat_lit 0x185⟩,
     ⟨nat_lit 0x188, nat_lit 0x188⟩, ⟨nat_lit 0x18C, nat_lit 0x18D⟩,
     ⟨nat_lit 0x192, nat_lit 0x192⟩, ⟨nat_lit 0x195, nat_lit 0x195⟩,
     ⟨nat_lit 0x199, nat_lit 0x19B⟩, ⟨nat_lit 0x19E, nat_lit 0x19E⟩,
     ⟨nat_lit 0x1A1, nat_lit 0x1A1⟩, ⟨nat_lit 0x1A3, nat_lit 0x1A3⟩,
     ⟨nat_lit 0x1A5, nat_lit 0x1A5⟩, ⟨nat_lit 0x1A8, nat_lit 0x1A8⟩,
     ⟨nat_lit 0x1AA, nat_lit 0x1AB⟩, ⟨nat_lit 0x1AD, nat_lit 0x1AD⟩,
     ⟨nat_lit 0x1B0, nat_lit 0x1B0⟩, ⟨nat_lit 0x1B4, nat_lit 0x1B4⟩,
     ⟨nat_lit 0x1B6, nat_lit 0x1B6⟩, ⟨nat_lit 0x1B9, nat_lit 0x1BA⟩,
     ⟨nat_lit 0x1BD, nat_lit 0x1BF⟩, ⟨nat_lit 0x1C6, nat_lit 0x1C6⟩,
     ⟨nat_lit 0x1C9, nat_lit 0x1C9⟩, ⟨nat_lit 0x1CC, nat_lit 0x1CC⟩,
     ⟨nat_lit 0x1CE, nat_lit 0x1CE⟩, ⟨nat_lit 0x1D0, nat_lit 0x1D0⟩,
     ⟨nat_lit 0x1D2, nat_lit 0x1D2⟩, ⟨nat_lit 0x1D4, nat_lit 0x1D4⟩,
     ⟨nat_lit 0x1D6, nat_lit 0x1D6⟩, ⟨nat_lit 0x1D8, nat_lit 0x1D8⟩,
     ⟨nat_lit 0x1DA, nat_lit 0x1DA⟩, ⟨nat_lit 0x1DC, nat_lit 0x1DD⟩,
     ⟨nat_lit 0x1DF, nat_lit 0x1DF⟩, ⟨nat_lit 0x1E1, nat_lit 0x1E1⟩,
     ⟨nat_lit 0x1E3, nat_lit 0x1E3⟩, ⟨nat_lit 0x1E5, nat_lit 0x1E5⟩,
     ⟨nat_lit 0x1E7, nat_lit 0x1E7⟩, ⟨nat_lit 0x1E9, nat_lit 0x1E9⟩,
     ⟨nat_lit 0x1EB, nat_lit 0x1EB⟩, ⟨nat_lit 0x1ED, nat_lit 0x1ED⟩,
     ⟨nat_lit 0x1EF, nat_lit 0x1F0⟩, ⟨nat_lit 0x1F3, nat_lit 0x1F3⟩,
     ⟨nat_lit 0x1F5, nat_lit 0x1F5⟩, ⟨nat_lit 0x1F9, nat_lit 0x1F9⟩,
     ⟨nat_lit 0x1FB, nat_lit 0x1FB⟩, ⟨nat_lit 0x1FD, nat_lit 0x1FD⟩,
     ⟨nat_lit 0x1FF, nat_lit 0x1FF⟩, ⟨nat_lit 0x201, nat_lit 0x201⟩,
     ⟨nat_lit 0x203, nat_lit 0x203⟩, ⟨nat_lit 0x205, nat_lit 0x205⟩,
     ⟨nat_lit 0x207, nat_lit 0x207⟩, ⟨nat_lit 0x209, nat_lit 0x209⟩,
     ⟨nat_lit 0x20B, nat_lit 0x20B⟩, ⟨nat_lit 0x20D, nat_lit 0x20D⟩,
     ⟨nat_lit 0x20F, nat_lit 0x20F⟩, ⟨nat_lit 0x211, nat_lit 0x211⟩,
     ⟨nat_lit 0x213, nat_lit 0x213⟩, ⟨nat_lit 0x215, nat_lit 0x215⟩,
     ⟨nat_lit 0x217, nat_lit 0x217⟩, ⟨nat_lit 0x219, nat_lit 0x219⟩,
     ⟨nat_lit 0x21B, nat_lit 0x21B⟩, ⟨nat_lit 0x21D, nat_lit 0x21D⟩,
     ⟨nat_lit 0x21F, nat_lit 0x21F⟩, ⟨nat_lit 0x221, nat_lit 0x221⟩,
     ⟨nat_lit 0x223, nat_lit 0x223⟩, ⟨nat_lit 0x225, nat_lit 0x225⟩,
     ⟨nat_lit 0x227, nat_lit 0x227⟩, ⟨nat_lit 0x229, nat_lit 0x229⟩,
     ⟨nat_lit 0x22B, nat_lit 0x22B⟩, ⟨nat_lit 0x22D, nat_lit 0x22D⟩,
     ⟨nat_lit 0x22F, nat_lit 0x22F⟩, ⟨nat_lit 0x231, nat_lit 0x231⟩,
     ⟨nat_lit 0x233, nat_lit 0x239⟩, ⟨nat_lit 0x23C, nat_lit 0x23C⟩,
     ⟨nat_lit 0x23F, nat_lit 0x240⟩, ⟨nat_lit 0x242, nat_lit 0x242⟩,
     ⟨nat_lit 0x247, nat_lit 0x247⟩, ⟨nat_lit 0x249, nat_lit 0x249⟩,
     ⟨nat_lit 0x24B, nat_lit 0x24B⟩, ⟨nat_lit 0x24D, nat_lit 0x24D⟩,
     ⟨nat_lit 0x24F, nat_lit 0x293⟩, ⟨nat_lit 0x295, nat_lit 0x2AF⟩,
     ⟨nat_lit 0x371, nat_lit 0x371⟩, ⟨nat_lit 0x373, nat_lit 0x373⟩,
     ⟨nat_lit 0x377, nat_lit 0x377⟩, ⟨nat_lit 0x37B, nat_lit 0x37D⟩,
     ⟨nat_lit 0x390, nat_lit 0x390⟩, ⟨nat_lit 0x3AC, nat_lit 0x3CE⟩,
     ⟨nat_lit 0x3D0, nat_lit 0x3D1⟩, ⟨nat_lit 0x3D5, nat_lit 0x3D7⟩,
     ⟨nat_lit 0x3D9, nat_lit 0x3D9⟩, ⟨nat_lit 0x3DB, nat_lit 0x3DB⟩,
     ⟨nat_lit 0x3DD, nat_lit 0x3DD⟩, ⟨nat_lit 0x3DF, nat_lit 0x3DF⟩,
     ⟨nat_lit 0x3E1, nat_lit 0x3E1⟩, ⟨nat_lit 0x3E3, nat_lit 0x3E3⟩,
     ⟨nat_lit 0x3E5, nat_lit 0x3E5⟩, ⟨nat_lit 0x3E7, nat_lit 0x3E7⟩,
     ⟨nat_lit 0x3E9, nat_lit 0x3E9⟩, ⟨nat_lit 0x3EB, nat_lit 0x3EB⟩,
     ⟨nat_lit 0x3ED, nat_lit 0x3ED⟩, ⟨nat_lit 0x3EF, nat_lit 0x3F3⟩,
     ⟨nat_lit 0x3F5, nat_lit 0x3F5⟩, ⟨nat_lit 0x3F8, nat_lit 0x3F8⟩,
     ⟨nat_lit 0x3FB, nat_lit 0x3FC⟩, ⟨nat_lit 0x430, nat_lit 0x45F⟩,
     ⟨nat_lit 0x461, nat_lit 0x461⟩, ⟨nat_lit 0x463, nat_lit 0x463⟩,
     ⟨nat_lit 0x465, nat_lit 0x465⟩, ⟨nat_lit 0x467, nat_lit 0x467⟩,
     ⟨nat_lit 0x469, nat_lit 0x469⟩, ⟨nat_lit 0x46B, nat_lit 0x46B⟩,
     ⟨nat_lit 0x46D, nat_lit 0x46D⟩, ⟨nat_lit 0x46F, nat_lit 0x46F⟩,
     ⟨nat_lit 0x471, nat_lit 0x471⟩, ⟨nat_lit 0x473, nat_lit 0x473⟩,
     ⟨nat_lit 0x475, nat_lit 0x475⟩, ⟨nat_lit 0x477, nat_lit 0x477⟩,
     ⟨nat_lit 0x479, nat_lit 0x479⟩, ⟨nat_lit 0x47B, nat_lit 0x47B⟩,
     ⟨nat_lit 0x47D, nat_lit 0x47D⟩, ⟨nat_lit 0x47F, nat_lit 0x47F⟩,
     ⟨nat_lit 0x481, nat_lit 0x481⟩, ⟨nat_lit 0x48B, nat_lit 0x48B⟩,
     ⟨nat_lit 0x48D, nat_lit 0x48D⟩, ⟨nat_lit 0x48F, nat_lit 0x48F⟩,
     ⟨nat_lit 0x491, nat_lit 0x491⟩, ⟨nat_lit 0x493, nat_lit 0x493⟩,
     ⟨nat_lit 0x495, nat_lit 0x495⟩, ⟨nat_lit 0x497, nat_lit 0x497⟩,
     ⟨nat_lit 0x499, nat_lit 0x499⟩, ⟨nat_lit 0x49B, nat_lit 0x49B⟩,
     ⟨nat_lit 0x49D, nat_lit 0x49D⟩, ⟨nat_lit 0x49F, nat_lit 0x49F⟩,
     ⟨nat_lit 0x4A1, nat_lit 0x4A1⟩, ⟨nat_lit 0x4A3, nat_lit 0x4A3⟩,
     ⟨nat_lit 0x4A5, nat_lit 0x4A5⟩, ⟨nat_lit 0x4A7, nat_lit 0x4A7⟩,
     ⟨nat_lit 0x4A9, nat_lit 0x4A9⟩, ⟨nat_lit 0x4AB, nat_lit 0x4AB⟩,
     ⟨nat_lit 0x4AD, nat_lit 0x4AD⟩, ⟨nat_lit 0x4AF, nat_lit 0x4AF⟩,
     ⟨nat_lit 0x4B1, nat_lit 0x4B1⟩, ⟨nat_lit 0x4B3, nat_lit 0x4B3⟩,
     ⟨nat_lit 0x4B5, nat_lit 0x4B5⟩, ⟨nat_lit 0x4B7, nat_lit 0x4B7⟩,
     ⟨nat_lit 0x4B9, nat_lit 0x4B9⟩, ⟨nat_lit 0x4BB, nat_lit 0x4BB⟩,
     ⟨nat_lit 0x4BD, nat_lit 0x4BD⟩, ⟨nat_lit 0x4BF, nat_lit 0x4BF⟩,
     ⟨nat_lit 0x4C2, nat_lit 0x4C2⟩, ⟨nat_lit 0x4C4, nat_lit 0x4C4⟩,
     ⟨nat_lit 0x4C6, nat_lit 0x4C6⟩, ⟨nat_lit 0x4C8, nat_lit 0x4C8⟩,
     ⟨nat_lit 0x4CA, nat_lit 0x4CA⟩, ⟨nat_lit 0x4CC, nat_lit 0x4CC⟩,
     ⟨nat_lit 0x4CE, nat_lit 0x4CF⟩, ⟨nat_lit 0x4D1, nat_lit 0x4D1⟩,
     ⟨nat_lit 0x4D3, nat_lit 0x4D3⟩, ⟨nat_lit 0x4D5, nat_lit 0x4D5⟩,
     ⟨nat_lit 0x4D7, nat_lit 0x4D7⟩, ⟨nat_lit 0x4D9, nat_lit 0x4D9⟩,
     ⟨nat_lit 0x4DB, nat_lit 0x4DB⟩, ⟨nat_lit 0x4DD, nat_lit 0x4DD⟩,
     ⟨nat_lit 0x4DF, nat_lit 0x4DF⟩, ⟨nat_lit 0x4E1, nat_lit 0x4E1⟩,
     ⟨nat_lit 0x4E3, nat_lit 0x4E3⟩, ⟨nat_lit 0x4E5, nat_lit 0x4E5⟩,
     ⟨nat_lit 0x4E7, nat_lit 0x4E7⟩, ⟨nat_lit 0x4E9, nat_lit 0x4E9⟩,
     ⟨nat_lit 0x4EB, nat_lit 0x4EB⟩, ⟨nat_lit 0x4ED, nat_lit 0x4ED⟩,
     ⟨nat_lit 0x4EF, nat_lit 0x4EF⟩, ⟨nat_lit 0x4F1, nat_lit 0x4F1⟩,
     ⟨nat_lit 0x4F3, nat_lit 0x4F3⟩, ⟨nat_lit 0x4F5, nat_lit 0x4F5⟩,
     ⟨nat_lit 0x4F7, nat_lit 0x4F7⟩, ⟨nat_lit 0x4F9, nat_lit 0x4F9⟩,
     ⟨nat_lit 0x4FB, nat_lit 0x4FB⟩, ⟨nat_lit 0x4FD, nat_lit 0x4FD⟩,
     ⟨nat_lit 0x4FF, nat_lit 0x4FF⟩, ⟨nat_lit 0x501, nat_lit 0x501⟩,
     ⟨nat_lit 0x503, nat_lit 0x503⟩, ⟨nat_lit 0x505, nat_lit 0x505⟩,
     ⟨nat_lit 0x507, nat_lit 0x507⟩, ⟨nat_lit 0x509, nat_lit 0x509⟩,
     ⟨nat_lit 0x50B, nat_lit 0x50B⟩, ⟨nat_lit 0x50D, nat_lit 0x50D⟩,
     ⟨nat_lit 0x50F, nat_lit 0x50F⟩, ⟨nat_lit 0x511, nat_lit 0x511⟩,
     ⟨nat_lit 0x513, nat_lit 0x513⟩, ⟨nat_lit 0x515, nat_lit 0x515⟩,
     ⟨nat_lit 0x517, nat_lit 0x517⟩, ⟨nat_lit 0x519, nat_lit 0x519⟩,
     ⟨nat_lit 0x51B, nat_lit 0x51B⟩, ⟨nat_lit 0x51D, nat_lit 0x51D⟩,
     ⟨nat_lit 0x51F, nat_lit 0x51F⟩, ⟨nat_lit 0x521, nat_lit 0x521⟩,
     ⟨nat_lit 0x523, nat_lit 0x523⟩, ⟨nat_lit 0x525, nat_lit 0x525⟩,
     ⟨nat_lit 0x527, nat_lit 0x527⟩, ⟨nat_lit 0x529, nat_lit 0x529⟩,
     ⟨nat_lit 0x52B, nat_lit 0x52B⟩, ⟨nat_lit 0x52D, nat_lit 0x52D⟩,
     ⟨nat_lit 0x52F, nat_lit 0x52F⟩, ⟨nat_lit 0x560, nat_lit 0x588⟩,
     ⟨nat_lit 0x10D0, nat_lit 0x10FA⟩, ⟨nat_lit 0x10FD, nat_lit 0x10FF⟩,
     ⟨nat_lit 0x13F8, nat_lit 0x13FD⟩, ⟨nat_lit 0x1C80, nat_lit 0x1C88⟩,
     ⟨nat_lit 0x1C8A, nat_lit 0x1C8A⟩, ⟨nat_lit 0x1D00, nat_lit 0x1D2B⟩,
     ⟨nat_lit 0x1D6B, nat_lit 0x1D77⟩, ⟨nat_lit 0x1D79, nat_lit 0x1D9A⟩,
     ⟨nat_lit 0x1E01, nat_lit 0x1E01⟩, ⟨nat_lit 0x1E03, nat_lit 0x1E03⟩,
     ⟨nat_lit 0x1E05, nat_lit 0x1E05⟩, ⟨nat_lit 0x1E07, nat_lit 0x1E07⟩,
     ⟨nat_lit 0x1E09, nat_lit 0x1E09⟩, ⟨nat_lit 0x1E0B, nat_lit 0x1E0B⟩,
     ⟨nat_lit 0x1E0D, nat_lit 0x1E0D⟩, ⟨nat_lit 0x1E0F, nat_lit 0x1E0F⟩,
     ⟨nat_lit 0x1E11, nat_lit 0x1E11⟩, ⟨nat_lit 0x1E13, nat_lit 0x1E13⟩,
     ⟨nat_lit 0x1E15, nat_lit 0x1E15⟩, ⟨nat_lit 0x1E17, nat_lit 0x1E17⟩,
     ⟨nat_lit 0x1E19, nat_lit 0x1E19⟩, ⟨nat_lit 0x1E1B, nat_lit 0x1E1B⟩,
     ⟨nat_lit 0x1E1D, nat_lit 0x1E1D⟩, ⟨nat_lit 0x1E1F, nat_lit 0x1E1F⟩,
     ⟨nat_lit 0x1E21, nat_lit 0x1E21⟩, ⟨nat_lit 0x1E23, nat_lit 0x1E23⟩,
     ⟨nat_lit 0x1E25, nat_lit 0x1E25⟩, ⟨nat_lit 0x1E27, nat_lit 0x1E27⟩,
     ⟨nat_lit 0x1E29, nat_lit 0x1E29⟩, ⟨nat_lit 0x1E2B, nat_lit 0x1E2B⟩,
     ⟨nat_lit 0x1E2D, nat_lit 0x1E2D⟩, ⟨nat_lit 0x1E2F, nat_lit 0x1E2F⟩,
     ⟨nat_lit 0x1E31, nat_lit 0x1E31⟩, ⟨nat_lit 0x1E33, nat_lit 0x1E33⟩,
     ⟨nat_lit 0x1E35, nat_lit 0x1E35⟩, ⟨nat_lit 0x1E37, nat_lit 0x1E37⟩,
     ⟨nat_lit 0x1E39, nat_lit 0x1E39⟩, ⟨nat_lit 0x1E3B, nat_lit 0x1E3B⟩,
     ⟨nat_lit 0x1E3D, nat_lit 0x1E3D⟩, ⟨nat_lit 0x1E3F, nat_lit 0x1E3F⟩,
     ⟨nat_lit 0x1E41, nat_lit 0x1E41⟩, ⟨nat_lit 0x1E43, nat_lit 0x1E43⟩,
     ⟨nat_lit 0x1E45, nat_lit 0x1E45⟩, ⟨nat_lit 0x1E47, nat_lit 0x1E47⟩,
     ⟨nat_lit 0x1E49, nat_lit 0x1E49⟩, ⟨nat_lit 0x1E4B, nat_lit 0x1E4B⟩,
     ⟨nat_lit 0x1E4D, nat_lit 0x1E4D⟩, ⟨nat_lit 0x1E4F, nat_lit 0x1E4F⟩,
     ⟨nat_lit 0x1E51, nat_lit 0x1E51⟩, ⟨nat_lit 0x1E53, nat_lit 0x1E53⟩,
     ⟨nat_lit 0x1E55, nat_lit 0x1E55⟩, ⟨nat_lit 0x1E57, nat_lit 0x1E57⟩,
     ⟨nat_lit 0x1E59, nat_lit 0x1E59⟩, ⟨nat_lit 0x1E5B, nat_lit 0x1E5B⟩,
     ⟨nat_lit 0x1E5D, nat_lit 0x1E5D⟩, ⟨nat_lit 0x1E5F, nat_lit 0x1E5F⟩,
     ⟨nat_lit 0x1E61, nat_lit 0x1E61⟩, ⟨nat_lit 0x1E63, nat_lit 0x1E63⟩,
     ⟨nat_lit 0x1E65, nat_lit 0x1E65⟩, ⟨nat_lit 0x1E67, nat_lit 0x1E67⟩,
     ⟨nat_lit 0x1E69, nat_lit 0x1E69⟩, ⟨nat_lit 0x1E6B, nat_lit 0x1E6B⟩,
     ⟨nat_lit 0x1E6D, nat_lit 0x1E6D⟩, ⟨nat_lit 0x1E6F, nat_lit 0x1E6F⟩,
     ⟨nat_lit 0x1E71, nat_lit 0x1E71⟩, ⟨nat_lit 0x1E73, nat_lit 0x1E73⟩,
     ⟨nat_lit 0x1E75, nat_lit 0x1E75⟩, ⟨nat_lit 0x1E77, nat_lit 0x1E77⟩,
     ⟨nat_lit 0x1E79, nat_lit 0x1E79⟩, ⟨nat_lit 0x1E7B, nat_lit 0x1E7B⟩,
     ⟨nat_lit 0x1E7D, nat_lit 0x1E7D⟩, ⟨nat_lit 0x1E7F, nat_lit 0x1E7F⟩,
     ⟨nat_lit 0x1E81, nat_lit 0x1E81⟩, ⟨nat_lit 0x1E83, nat_lit 0x1E83⟩,
     ⟨nat_lit 0x1E85, nat_lit 0x1E85⟩, ⟨nat_lit 0x1E87, nat_lit 0x1E87⟩,
     ⟨nat_lit 0x1E89, nat_lit 0x1E89⟩, ⟨nat_lit 0x1E8B, nat_lit 0x1E8B⟩,
     ⟨nat_lit 0x1E8D, nat_lit 0x1E8D⟩, ⟨nat_lit 0x1E8F, nat_lit 0x1E8F⟩,
     ⟨nat_lit 0x1E91, nat_lit 0x1E91⟩, ⟨nat_lit 0x1E93, nat_lit 0x1E93⟩,
     ⟨nat_lit 0x1E95, nat_lit 0x1E9D⟩, ⟨nat_lit 0x1E9F, nat_lit 0x1E9F⟩,
     ⟨nat_lit 0x1EA1, nat_lit 0x1EA1⟩, ⟨nat_lit 0x1EA3, nat_lit 0x1EA3⟩,
     ⟨nat_lit 0x1EA5, nat_lit 0x1EA5⟩, ⟨nat_lit 0x1EA7, nat_lit 0x1EA7⟩,
     ⟨nat_lit 0x1EA9, nat_lit 0x1EA9⟩, ⟨nat_lit 0x1EAB, nat_lit 0x1EAB⟩,
     ⟨nat_lit 0x1EAD, nat_lit 0x1EAD⟩, ⟨nat_lit 0x1EAF, nat_lit 0x1EAF⟩,
     ⟨nat_lit 0x1EB1, nat_lit 0x1EB1⟩, ⟨nat_lit 0x1EB3, nat_lit 0x1EB3⟩,
     ⟨nat_lit 0x1EB5, nat_lit 0x1EB5⟩, ⟨nat_lit 0x1EB7, nat_lit 0x1EB7⟩,
     ⟨nat_lit 0x1EB9, nat_lit 0x1EB9⟩, ⟨nat_lit 0x1EBB, nat_lit 0x1EBB⟩,
     ⟨nat_lit 0x1EBD, nat_lit 0x1EBD⟩, ⟨nat_lit 0x1EBF, nat_lit 0x1EBF⟩,
     ⟨nat_lit 0x1EC1, nat_lit 0x1EC1⟩, ⟨nat_lit 0x1EC3, nat_lit 0x1EC3⟩,
     ⟨nat_lit 0x1EC5, nat_lit 0x1EC5⟩, ⟨nat_lit 0x1EC7, nat_lit 0x1EC7⟩,
     ⟨nat_lit 0x1EC9, nat_lit 0x1EC9⟩, ⟨nat_lit 0x1ECB, nat_lit 0x1ECB⟩,
     ⟨nat_lit 0x1ECD, nat_lit 0x1ECD⟩, ⟨nat_lit 0x1ECF, nat_lit 0x1ECF⟩,
     ⟨nat_lit 0x1ED1, nat_lit 0x1ED1⟩, ⟨nat_lit 0x1ED3, nat_lit 0x1ED3⟩,
     ⟨nat_lit 0x1ED5, nat_lit 0x1ED5⟩, ⟨nat_lit 0x1ED7, nat_lit 0x1ED7⟩,
     ⟨nat_lit 0x1ED9, nat_lit 0x1ED9⟩, ⟨nat_lit 0x1EDB, nat_lit 0x1EDB⟩,
     ⟨nat_lit 0x1EDD, nat_lit 0x1EDD⟩, ⟨nat_lit 0x1EDF, nat_lit 0x1EDF⟩,
     ⟨nat_lit 0x1EE1, nat_lit 0x1EE1⟩, ⟨nat_lit 0x1EE3, nat_lit 0x1EE3⟩,
     ⟨nat_lit 0x1EE5, nat_lit 0x1EE5⟩, ⟨nat_lit 0x1EE7, nat_lit 0x1EE7⟩,
     ⟨nat_lit 0x1EE9, nat_lit 0x1EE9⟩, ⟨nat_lit 0x1EEB, nat_lit 0x1EEB⟩,
     ⟨nat_lit 0x1EED, nat_lit 0x1EED⟩, ⟨nat_lit 0x1EEF, nat_lit 0x1EEF⟩,
     ⟨nat_lit 0x1EF1, nat_lit 0x1EF1⟩, ⟨nat_lit 0x1EF3, nat_lit 0x1EF3⟩,
     ⟨nat_lit 0x1EF5, nat_lit 0x1EF5⟩, ⟨nat_lit 0x1EF7, nat_lit 0x1EF7⟩,
     ⟨nat_lit 0x1EF9, nat_lit 0x1EF9⟩, ⟨nat_lit 0x1EFB, nat_lit 0x1EFB⟩,
     ⟨nat_lit 0x1EFD, nat_lit 0x1EFD⟩, ⟨nat_lit 0x1EFF, nat_lit 0x1F07⟩,
     ⟨nat_lit 0x1F10, nat_lit 0x1F15⟩, ⟨nat_lit 0x1F20, nat_lit 0x1F27⟩,
     ⟨nat_lit 0x1F30, nat_lit 0x1F37⟩, ⟨nat_lit 0x1F40, nat_lit 0x1F45⟩,
     ⟨nat_lit 0x1F50, nat_lit 0x1F57⟩, ⟨nat_lit 0x1F60, nat_lit 0x1F67⟩,
     ⟨nat_lit 0x1F70, nat_lit 0x1F7D⟩, ⟨nat_lit 0x1F80, nat_lit 0x1F87⟩,
     ⟨nat_lit 0x1F90, nat_lit 0x1F97⟩, ⟨nat_lit 0x1FA0, nat_lit 0x1FA7⟩,
     ⟨nat_lit 0x1FB0, nat_lit 0x1FB4⟩, ⟨nat_lit 0x1FB6, nat_lit 0x1FB7⟩,
     ⟨nat_lit 0x1FBE, nat_lit 0x1FBE⟩, ⟨nat_lit 0x1FC2, nat_lit 0x1FC4⟩,
     ⟨nat_lit 0x1FC6, nat_lit 0x1FC7⟩, ⟨nat_lit 0x1FD0, nat_lit 0x1FD3⟩,
     ⟨nat_lit 0x1FD6, nat_lit 0x1FD7⟩, ⟨nat_lit 0x1FE0, nat_lit 0x1FE7⟩,
     ⟨nat_lit 0x1FF2, nat_lit 0x1FF4⟩, ⟨nat_lit 0x1FF6, nat_lit 0x1FF7⟩,
     ⟨nat_lit 0x210A, nat_lit 0x210A⟩, ⟨nat_lit 0x210E, nat_lit 0x210F⟩,
     ⟨nat_lit 0x2113, nat_lit 0x2113⟩, ⟨nat_lit 0x212F, nat_lit 0x212F⟩,
     ⟨nat_lit 0x2134, nat_lit 0x2134⟩, ⟨nat_lit 0x2139, nat_lit 0x2139⟩,
     ⟨nat_lit 0x213C, nat_lit 0x213D⟩, ⟨nat_lit 0x2146, nat_lit 0x2149⟩,
     ⟨nat_lit 0x214E, nat_lit 0x214E⟩, ⟨nat_lit 0x2184, nat_lit 0x2184⟩,
     ⟨nat_lit 0x2C30, nat_lit 0x2C5F⟩, ⟨nat_lit 0x2C61, nat_lit 0x2C61⟩,
     ⟨nat_lit 0x2C65, nat_lit 0x2C66⟩, ⟨nat_lit 0x2C68, nat_lit 0x2C68⟩,
     ⟨nat_lit 0x2C6A, nat_lit 0x2C6A⟩, ⟨nat_lit 0x2C6C, nat_lit 0x2C6C⟩,
     ⟨nat_lit 0x2C71, nat_lit 0x2C71⟩, ⟨nat_lit 0x2C73, nat_lit 0x2C74⟩,
     ⟨nat_lit 0x2C76, nat_lit 0x2C7B⟩, ⟨nat_lit 0x2C81, nat_lit 0x2C81⟩,
     ⟨nat_lit 0x2C83, nat_lit 0x2C83⟩, ⟨nat_lit 0x2C85, nat_lit 0x2C85⟩,
     ⟨nat_lit 0x2C87, nat_lit 0x2C87⟩, ⟨nat_lit 0x2C89, nat_lit 0x2C89⟩,
     ⟨nat_lit 0x2C8B, nat_lit 0x2C8B⟩, ⟨nat_lit 0x2C8D, nat_lit 0x2C8D⟩,
     ⟨nat_lit 0x2C8F, nat_lit 0x2C8F⟩, ⟨nat_lit 0x2C91, nat_lit 0x2C91⟩,
     ⟨nat_lit 0x2C93, nat_lit 0x2C93⟩, ⟨nat_lit 0x2C95, nat_lit 0x2C95⟩,
     ⟨nat_lit 0x2C97, nat_lit 0x2C97⟩, ⟨nat_lit 0x2C99, nat_lit 0x2C99⟩,
     ⟨nat_lit 0x2C9B, nat_lit 0x2C9B⟩, ⟨nat_lit 0x2C9D, nat_lit 0x2C9D⟩,
     ⟨nat_lit 0x2C9F, nat_lit 0x2C9F⟩, ⟨nat_lit 0x2CA1, nat_lit 0x2CA1⟩,
     ⟨nat_lit 0x2CA3, nat_lit 0x2CA3⟩, ⟨nat_lit 0x2CA5, nat_lit 0x2CA5⟩,
     ⟨nat_lit 0x2CA7, nat_lit 0x2CA7⟩, ⟨nat_lit 0x2CA9, nat_lit 0x2CA9⟩,
     ⟨nat_lit 0x2CAB, nat_lit 0x2CAB⟩, ⟨nat_lit 0x2CAD, nat_lit 0x2CAD⟩,
     ⟨nat_lit 0x2CAF, nat_lit 0x2CAF⟩, ⟨nat_lit 0x2CB1, nat_lit 0x2CB1⟩,
     ⟨nat_lit 0x2CB3, nat_lit 0x2CB3⟩, ⟨nat_lit 0x2CB5, nat_lit 0x2CB5⟩,
     ⟨nat_lit 0x2CB7, nat_lit 0x2CB7⟩, ⟨nat_lit 0x2CB9, nat_lit 0x2CB9⟩,
     ⟨nat_lit 0x2CBB, nat_lit 0x2CBB⟩, ⟨nat_lit 0x2CBD, nat_lit 0x2CBD⟩,
     ⟨nat_lit 0x2CBF, nat_lit 0x2CBF⟩, ⟨nat_lit 0x2CC1, nat_lit 0x2CC1⟩,
     ⟨nat_lit 0x2CC3, nat_lit 0x2CC3⟩, ⟨nat_lit 0x2CC5, nat_lit 0x2CC5⟩,
     ⟨nat_lit 0x2CC7, nat_lit 0x2CC7⟩, ⟨nat_lit 0x2CC9, nat_lit 0x2CC9⟩,
     ⟨nat_lit 0x2CCB, nat_lit 0x2CCB⟩, ⟨nat_lit 0x2CCD, nat_lit 0x2CCD⟩,
     ⟨nat_lit 0x2CCF, nat_lit 0x2CCF⟩, ⟨nat_lit 0x2CD1, nat_lit 0x2CD1⟩,
     ⟨nat_lit 0x2CD3, nat_lit 0x2CD3⟩, ⟨nat_lit 0x2CD5, nat_lit 0x2CD5⟩,
     ⟨nat_lit 0x2CD7, nat_lit 0x2CD7⟩, ⟨nat_lit 0x2CD9, nat_lit 0x2CD9⟩,
     ⟨nat_lit 0x2CDB, nat_lit 0x2CDB⟩, ⟨nat_lit 0x2CDD, nat_lit 0x2CDD⟩,
     ⟨nat_lit 0x2CDF, nat_lit 0x2CDF⟩, ⟨nat_lit 0x2CE1, nat_lit 0x2CE1⟩,
     ⟨nat_lit 0x2CE3, nat_lit 0x2CE4⟩, ⟨nat_lit 0x2CEC, nat_lit 0x2CEC⟩,
     ⟨nat_lit 0x2CEE, nat_lit 0x2CEE⟩, ⟨nat_lit 0x2CF3, nat_lit 0x2CF3⟩,
     ⟨nat_lit 0x2D00, nat_lit 0x2D25⟩, ⟨nat_lit 0x2D27, nat_lit 0x2D27⟩,
     ⟨nat_lit 0x2D2D, nat_lit 0x2D2D⟩, ⟨nat_lit 0xA641, nat_lit 0xA641⟩,
     ⟨nat_lit 0xA643, nat_lit 0xA643⟩, ⟨nat_lit 0xA645, nat_lit 0xA645⟩,
     ⟨nat_lit 0xA647, nat_lit 0xA647⟩, ⟨nat_lit 0xA649, nat_lit 0xA649⟩,
     ⟨nat_lit 0xA64B, nat_lit 0xA64B⟩, ⟨nat_lit 0xA64D, nat_lit 0xA64D⟩,
     ⟨nat_lit 0xA64F, nat_lit 0xA64F⟩, ⟨nat_lit 0xA651, nat_lit 0xA651⟩,
     ⟨nat_lit 0xA653, nat_lit 0xA653⟩, ⟨nat_lit 0xA655, nat_lit 0xA655⟩,
     ⟨nat_lit 0xA657, nat_lit 0xA657⟩, ⟨nat_lit 0xA659, nat_lit 0xA659⟩,
     ⟨nat_lit 0xA65B, nat_lit 0xA65B⟩, ⟨nat_lit 0xA65D, nat_lit 0xA65D⟩,
     ⟨nat_lit 0xA65F, nat_lit 0xA65F⟩, ⟨nat_lit 0xA661, nat_lit 0xA661⟩,
     ⟨nat_lit 0xA663, nat_lit 0xA663⟩, ⟨nat_lit 0xA665, nat_lit 0xA665⟩,
     ⟨nat_lit 0xA667, nat_lit 0xA667⟩, ⟨nat_lit 0xA669, nat_lit 0xA669⟩,
     ⟨nat_lit 0xA66B, nat_lit 0xA66B⟩, ⟨nat_lit 0xA66D, nat_lit 0xA66D⟩,
     ⟨nat_lit 0xA681, nat_lit 0xA681⟩, ⟨nat_lit 0xA683, nat_lit 0xA683⟩,
     ⟨nat_lit 0xA685, nat_lit 0xA685⟩, ⟨nat_lit 0xA687, nat_lit 0xA687⟩,
     ⟨nat_lit 0xA689, nat_lit 0xA689⟩, ⟨nat_lit 0xA68B, nat_lit 0xA68B⟩,
     ⟨nat_lit 0xA68D, nat_lit 0xA68D⟩, ⟨nat_lit 0xA68F, nat_lit 0xA68F⟩,
     ⟨nat_lit 0xA691, nat_lit 0xA691⟩, ⟨nat_lit 0xA693, nat_lit 0xA693⟩,
     ⟨nat_lit 0xA695, nat_lit 0xA695⟩, ⟨nat_lit 0xA697, nat_lit 0xA697⟩,
     ⟨nat_lit 0xA699, nat_lit 0xA699⟩, ⟨nat_lit 0xA69B, nat_lit 0xA69B⟩,
     ⟨nat_lit 0xA723, nat_lit 0xA723⟩, ⟨nat_lit 0xA725, nat_lit 0xA725⟩,
     ⟨nat_lit 0xA727, nat_lit 0xA727⟩, ⟨nat_lit 0xA729, nat_lit 0xA729⟩,
     ⟨nat_lit 0xA72B, nat_lit 0xA72B⟩, ⟨nat_lit 0xA72D, nat_lit 0xA72D⟩,
     ⟨nat_lit 0xA72F, nat_lit 0xA731⟩, ⟨nat_lit 0xA733, nat_lit 0xA733⟩,
     ⟨nat_lit 0xA735, nat_lit 0xA735⟩, ⟨nat_lit 0xA737, nat_lit 0xA737⟩,
     ⟨nat_lit 0xA739, nat_lit 0xA739⟩, ⟨nat_lit 0xA73B, nat_lit 0xA73B⟩,
     ⟨nat_lit 0xA73D, nat_lit 0xA73D⟩, ⟨nat_lit 0xA73F, nat_lit 0xA73F⟩,
     ⟨nat_lit 0xA741, nat_lit 0xA741⟩, ⟨nat_lit 0xA743, nat_lit 0xA743⟩,
     ⟨nat_lit 0xA745, nat_lit 0xA745⟩, ⟨nat_lit 0xA747, nat_lit 0xA747⟩,
     ⟨nat_lit 0xA749, nat_lit 0xA749⟩, ⟨nat_lit 0xA74B, nat_lit 0xA74B⟩,
     ⟨nat_lit 0xA74D, nat_lit 0xA74D⟩, ⟨nat_lit 0xA74F, nat_lit 0xA74F⟩,
     ⟨nat_lit 0xA751, nat_lit 0xA751⟩, ⟨nat_lit 0xA753, nat_lit 0xA753⟩,
     ⟨nat_lit 0xA755, nat_lit 0xA755⟩, ⟨nat_lit 0xA757, nat_lit 0xA757⟩,
     ⟨nat_lit 0xA759, nat_lit 0xA759⟩, ⟨nat_lit 0xA75B, nat_lit 0xA75B⟩,
     ⟨nat_lit 0xA75D, nat_lit 0xA75D⟩, ⟨nat_lit 0xA75F, nat_lit 0xA75F⟩,
     ⟨nat_lit 0xA761, nat_lit 0xA761⟩, ⟨nat_lit 0xA763, nat_lit 0xA763⟩,
     ⟨nat_lit 0xA765, nat_lit 0xA765⟩, ⟨nat_lit 0xA767, nat_lit 0xA767⟩,
     ⟨nat_lit 0xA769, nat_lit 0xA769⟩, ⟨nat_lit 0xA76B, nat_lit 0xA76B⟩,
     ⟨nat_lit 0xA76D, nat_lit 0xA76D⟩, ⟨nat_lit 0xA76F, nat_lit 0xA76F⟩,
     ⟨nat_lit 0xA771, nat_lit 0xA778⟩, ⟨nat_lit 0xA77A, nat_lit 0xA77A⟩,
     ⟨nat_lit 0xA77C, nat_lit 0xA77C⟩, ⟨nat_lit 0xA77F, nat_lit 0xA77F⟩,
     ⟨nat_lit 0xA781, nat_lit 0xA781⟩, ⟨nat_lit 0xA783, nat_lit 0xA783⟩,
     ⟨nat_lit 0xA785, nat_lit 0xA785⟩, ⟨nat_lit 0xA787, nat_lit 0xA787⟩,
     ⟨nat_lit 0xA78C, nat_lit 0xA78C⟩, ⟨nat_lit 0xA78E, nat_lit 0xA78E⟩,
     ⟨nat_lit 0xA791, nat_lit 0xA791⟩, ⟨nat_lit 0xA793, nat_lit 0xA795⟩,
     ⟨nat_lit 0xA797, nat_lit 0xA797⟩, ⟨nat_lit 0xA799, nat_lit 0xA799⟩,
     ⟨nat_lit 0xA79B, nat_lit 0xA79B⟩, ⟨nat_lit 0xA79D, nat_lit 0xA79D⟩,
     ⟨nat_lit 0xA79F, nat_lit 0xA79F⟩, ⟨nat_lit 0xA7A1, nat_lit 0xA7A1⟩,
     ⟨nat_lit 0xA7A3, nat_lit 0xA7A3⟩, ⟨nat_lit 0xA7A5, nat_lit 0xA7A5⟩,
     ⟨nat_lit 0xA7A7, nat_lit 0xA7A7⟩, ⟨nat_lit 0xA7A9, nat_lit 0xA7A9⟩,
     ⟨nat_lit 0xA7AF, nat_lit 0xA7AF⟩, ⟨nat_lit 0xA7B5, nat_lit 0xA7B5⟩,
     ⟨nat_lit 0xA7B7, nat_lit 0xA7B7⟩, ⟨nat_lit 0xA7B9, nat_lit 0xA7B9⟩,
     ⟨nat_lit 0xA7BB, nat_lit 0xA7BB⟩, ⟨nat_lit 0xA7BD, nat_lit 0xA7BD⟩,
     ⟨nat_lit 0xA7BF, nat_lit 0xA7BF⟩, ⟨nat_lit 0xA7C1, nat_lit 0xA7C1⟩,
     ⟨nat_lit 0xA7C3, nat_lit 0xA7C3⟩, ⟨nat_lit 0xA7C8, nat_lit 0xA7C8⟩,
     ⟨nat_lit 0xA7CA, nat_lit 0xA7CA⟩, ⟨nat_lit 0xA7CD, nat_lit 0xA7CD⟩,
     ⟨nat_lit 0xA7D1, nat_lit 0xA7D1⟩, ⟨nat_lit 0xA7D3, nat_lit 0xA7D3⟩,
     ⟨nat_lit 0xA7D5, nat_lit 0xA7D5⟩, ⟨nat_lit 0xA7D7, nat_lit 0xA7D7⟩,
     ⟨nat_lit 0xA7D9, nat_lit 0xA7D9⟩, ⟨nat_lit 0xA7DB, nat_lit 0xA7DB⟩,
     ⟨nat_lit 0xA7F6, nat_lit 0xA7F6⟩, ⟨nat_lit 0xA7FA, nat_lit 0xA7FA⟩,
     ⟨nat_lit 0xAB30, nat_lit 0xAB5A⟩, ⟨nat_lit 0xAB60, nat_lit 0xAB68⟩,
     ⟨nat_lit 0xAB70, nat_lit 0xABBF⟩, ⟨nat_lit 0xFB00, nat_lit 0xFB06⟩,
     ⟨nat_lit 0xFB13, nat_lit 0xFB17⟩, ⟨nat_lit 0xFF41, nat_lit 0xFF5A⟩,
     ⟨nat_lit 0x10428, nat_lit 0x1044F⟩, ⟨nat_lit 0x104D8, nat_lit 0x104FB⟩,
     ⟨nat_lit 0x10597, nat_lit 0x105A1⟩, ⟨nat_lit 0x105A3, nat_lit 0x105B1⟩,
     ⟨nat_lit 0x105B3, nat_lit 0x105B9⟩, ⟨nat_lit 0x105BB, nat_lit 0x105BC⟩,
     ⟨nat_lit 0x10CC0, nat_lit 0x10CF2⟩, ⟨nat_lit 0x10D70, nat_lit 0x10D85⟩,
     ⟨nat_lit 0x118C0, nat_lit 0x118DF⟩, ⟨nat_lit 0x16E60, nat_lit 0x16E7F⟩,
     ⟨nat_lit 0x1D41A, nat_lit 0x1D433⟩, ⟨nat_lit 0x1D44E, nat_lit 0x1D454⟩,
     ⟨nat_lit 0x1D456, nat_lit 0x1D467⟩, ⟨nat_lit 0x1D482, nat_lit 0x1D49B⟩,
     ⟨nat_lit 0x1D4B6, nat_lit 0x1D4B9⟩, ⟨nat_lit 0x1D4BB, nat_lit 0x1D4BB⟩,
     ⟨nat_lit 0x1D4BD, nat_lit 0x1D4C3⟩, ⟨nat_lit 0x1D4C5, nat_lit 0x1D4CF⟩,
     ⟨nat_lit 0x1D4EA, nat_lit 0x1D503⟩, ⟨nat_lit 0x1D51E, nat_lit 0x1D537⟩,
     ⟨nat_lit 0x1D552, nat_lit 0x1D56B⟩, ⟨nat_lit 0x1D586, nat_lit 0x1D59F⟩,
     ⟨nat_lit 0x1D5BA, nat_lit 0x1D5D3⟩, ⟨nat_lit 0x1D5EE, nat_lit 0x1D607⟩,
     ⟨nat_lit 0x1D622, nat_lit 0x1D63B⟩, ⟨nat_lit 0x1D656, nat_lit 0x1D66F⟩,
     ⟨nat_lit 0x1D68A, nat_lit 0x1D6A5⟩, ⟨nat_lit 0x1D6C2, nat_lit 0x1D6DA⟩,
     ⟨nat_lit 0x1D6DC, nat_lit 0x1D6E1⟩, ⟨nat_lit 0x1D6FC, nat_lit 0x1D714⟩,
     ⟨nat_lit 0x1D716, nat_lit 0x1D71B⟩, ⟨nat_lit 0x1D736, nat_lit 0x1D74E⟩,
     ⟨nat_lit 0x1D750, nat_lit 0x1D755⟩, ⟨nat_lit 0x1D770, nat_lit 0x1D788⟩,
     ⟨nat_lit 0x1D78A, nat_lit 0x1D78F⟩, ⟨nat_lit 0x1D7AA, nat_lit 0x1D7C2⟩,
     ⟨nat_lit 0x1D7C4, nat_lit 0x1D7C9⟩, ⟨nat_lit 0x1D7CB, nat_lit 0x1D7CB⟩,
     ⟨nat_lit 0x1DF00, nat_lit 0x1DF09⟩, ⟨nat_lit 0x1DF0B, nat_lit 0x1DF1E⟩,
     ⟨nat_lit 0x1DF25, nat_lit 0x1DF2A⟩, ⟨nat_lit 0x1E922, nat_lit 0x1E943⟩]
  | titlecaseLetter =>
    [⟨nat_lit 0x1C5, nat_lit 0x1C5⟩, ⟨nat_lit 0x1C8, nat_lit 0x1C8⟩,
     ⟨nat_lit 0x1CB, nat_lit 0x1CB⟩, ⟨nat_lit 0x1F2, nat_lit 0x1F2⟩,
     ⟨nat_lit 0x1F88, nat_lit 0x1F8F⟩, ⟨nat_lit 0x1F98, nat_lit 0x1F9F⟩,
     ⟨nat_lit 0x1FA8, nat_lit 0x1FAF⟩, ⟨nat_lit 0x1FBC, nat_lit 0x1FBC⟩,
     ⟨nat_lit 0x1FCC, nat_lit 0x1FCC⟩, ⟨nat_lit 0x1FFC, nat_lit 0x1FFC⟩]
  | modifierLetter =>
    [⟨nat_lit 0x2B0, nat_lit 0x2C1⟩, ⟨nat_lit 0x2C6, nat_lit 0x2D1⟩,
     ⟨nat_lit 0x2E0, nat_lit 0x2E4⟩, ⟨nat_lit 0x2EC, nat_lit 0x2EC⟩,
     ⟨nat_lit 0x2EE, nat_lit 0x2EE⟩, ⟨nat_lit 0x374, nat_lit 0x374⟩,
     ⟨nat_lit 0x37A, nat_lit 0x37A⟩, ⟨nat_lit 0x559, nat_lit 0x559⟩,
     ⟨nat_lit 0x640, nat_lit 0x640⟩, ⟨nat_lit 0x6E5, nat_lit 0x6E6⟩,
     ⟨nat_lit 0x7F4, nat_lit 0x7F5⟩, ⟨nat_lit 0x7FA, nat_lit 0x7FA⟩,
     ⟨nat_lit 0x81A, nat_lit 0x81A⟩, ⟨nat_lit 0x824, nat_lit 0x824⟩,
     ⟨nat_lit 0x828, nat_lit 0x828⟩, ⟨nat_lit 0x8C9, nat_lit 0x8C9⟩,
     ⟨nat_lit 0x971, nat_lit 0x971⟩, ⟨nat_lit 0xE46, nat_lit 0xE46⟩,
     ⟨nat_lit 0xEC6, nat_lit 0xEC6⟩, ⟨nat_lit 0x10FC, nat_lit 0x10FC⟩,
     ⟨nat_lit 0x17D7, nat_lit 0x17D7⟩, ⟨nat_lit 0x1843, nat_lit 0x1843⟩,
     ⟨nat_lit 0x1AA7, nat_lit 0x1AA7⟩, ⟨nat_lit 0x1C78, nat_lit 0x1C7D⟩,
     ⟨nat_lit 0x1D2C, nat_lit 0x1D6A⟩, ⟨nat_lit 0x1D78, nat_lit 0x1D78⟩,
     ⟨nat_lit 0x1D9B, nat_lit 0x1DBF⟩, ⟨nat_lit 0x2071, nat_lit 0x2071⟩,
     ⟨nat_lit 0x207F, nat_lit 0x207F⟩, ⟨nat_lit 0x2090, nat_lit 0x209C⟩,
     ⟨nat_lit 0x2C7C, nat_lit 0x2C7D⟩, ⟨nat_lit 0x2D6F, nat_lit 0x2D6F⟩,
     ⟨nat_lit 0x2E2F, nat_lit 0x2E2F⟩, ⟨nat_lit 0x3005, nat_lit 0x3005⟩,
     ⟨nat_lit 0x3031, nat_lit 0x3035⟩, ⟨nat_lit 0x303B, nat_lit 0x303B⟩,
     ⟨nat_lit 0x309D, nat_lit 0x309E⟩, ⟨nat_lit 0x30FC, nat_lit 0x30FE⟩,
     ⟨nat_lit 0xA015, nat_lit 0xA015⟩, ⟨nat_lit 0xA4F8, nat_lit 0xA4FD⟩,
     ⟨nat_lit 0xA60C, nat_lit 0xA60C⟩, ⟨nat_lit 0xA67F, nat_lit 0xA67F⟩,
     ⟨nat_lit 0xA69C, nat_lit 0xA69D⟩, ⟨nat_lit 0xA717, nat_lit 0xA71F⟩,
     ⟨nat_lit 0xA770, nat_lit 0xA770⟩, ⟨nat_lit 0xA788, nat_lit 0xA788⟩,
     ⟨nat_lit 0xA7F2, nat_lit 0xA7F4⟩, ⟨nat_lit 0xA7F8, nat_lit 0xA7F9⟩,
     ⟨nat_lit 0xA9CF, nat_lit 0xA9CF⟩, ⟨nat_lit 0xA9E6, nat_lit 0xA9E6⟩,
     ⟨nat_lit 0xAA70, nat_lit 0xAA70⟩, ⟨nat_lit 0xAADD, nat_lit 0xAADD⟩,
     ⟨nat_lit 0xAAF3, nat_lit 0xAAF4⟩, ⟨nat_lit 0xAB5C, nat_lit 0xAB5F⟩,
     ⟨nat_lit 0xAB69, nat_lit 0xAB69⟩, ⟨nat_lit 0xFF70, nat_lit 0xFF70⟩,
     ⟨nat_lit 0xFF9E, nat_lit 0xFF9F⟩, ⟨nat_lit 0x10780, nat_lit 0x10785⟩,
     ⟨nat_lit 0x10787, nat_lit 0x107B0⟩, ⟨nat_lit 0x107B2, nat_lit 0x107BA⟩,
     ⟨nat_lit 0x10D4E, nat_lit 0x10D4E⟩, ⟨nat_lit 0x10D6F, nat_lit 0x10D6F⟩,
     ⟨nat_lit 0x16B40, nat_lit 0x16B43⟩, ⟨nat_lit 0x16D40, nat_lit 0x16D42⟩,
     ⟨nat_lit 0x16D6B, nat_lit 0x16D6C⟩, ⟨nat_lit 0x16F93, nat_lit 0x16F9F⟩,
     ⟨nat_lit 0x16FE0, nat_lit 0x16FE1⟩, ⟨nat_lit 0x16FE3, nat_lit 0x16FE3⟩,
     ⟨nat_lit 0x1AFF0, nat_lit 0x1AFF3⟩, ⟨nat_lit 0x1AFF5, nat_lit 0x1AFFB⟩,
     ⟨nat_lit 0x1AFFD, nat_lit 0x1AFFE⟩, ⟨nat_lit 0x1E030, nat_lit 0x1E06D⟩,
     ⟨nat_lit 0x1E137, nat_lit 0x1E13D⟩, ⟨nat_lit 0x1E4EB, nat_lit 0x1E4EB⟩,
     ⟨nat_lit 0x1E94B, nat_lit 0x1E94B⟩]
  | otherLetter =>
    [⟨nat_lit 0xAA, nat_lit 0xAA⟩, ⟨nat_lit 0xBA, nat_lit 0xBA⟩, ⟨nat_lit 0x1BB, nat_lit 0x1BB⟩,
     ⟨nat_lit 0x1C0, nat_lit 0x1C3⟩, ⟨nat_lit 0x294, nat_lit 0x294⟩,
     ⟨nat_lit 0x5D0, nat_lit 0x5EA⟩, ⟨nat_lit 0x5EF, nat_lit 0x5F2⟩,
     ⟨nat_lit 0x620, nat_lit 0x63F⟩, ⟨nat_lit 0x641, nat_lit 0x64A⟩,
     ⟨nat_lit 0x66E, nat_lit 0x66F⟩, ⟨nat_lit 0x671, nat_lit 0x6D3⟩,
     ⟨nat_lit 0x6D5, nat_lit 0x6D5⟩, ⟨nat_lit 0x6EE, nat_lit 0x6EF⟩,
     ⟨nat_lit 0x6FA, nat_lit 0x6FC⟩, ⟨nat_lit 0x6FF, nat_lit 0x6FF⟩,
     ⟨nat_lit 0x710, nat_lit 0x710⟩, ⟨nat_lit 0x712, nat_lit 0x72F⟩,
     ⟨nat_lit 0x74D, nat_lit 0x7A5⟩, ⟨nat_lit 0x7B1, nat_lit 0x7B1⟩,
     ⟨nat_lit 0x7CA, nat_lit 0x7EA⟩, ⟨nat_lit 0x800, nat_lit 0x815⟩,
     ⟨nat_lit 0x840, nat_lit 0x858⟩, ⟨nat_lit 0x860, nat_lit 0x86A⟩,
     ⟨nat_lit 0x870, nat_lit 0x887⟩, ⟨nat_lit 0x889, nat_lit 0x88E⟩,
     ⟨nat_lit 0x8A0, nat_lit 0x8C8⟩, ⟨nat_lit 0x904, nat_lit 0x939⟩,
     ⟨nat_lit 0x93D, nat_lit 0x93D⟩, ⟨nat_lit 0x950, nat_lit 0x950⟩,
     ⟨nat_lit 0x958, nat_lit 0x961⟩, ⟨nat_lit 0x972, nat_lit 0x980⟩,
     ⟨nat_lit 0x985, nat_lit 0x98C⟩, ⟨nat_lit 0x98F, nat_lit 0x990⟩,
     ⟨nat_lit 0x993, nat_lit 0x9A8⟩, ⟨nat_lit 0x9AA, nat_lit 0x9B0⟩,
     ⟨nat_lit 0x9B2, nat_lit 0x9B2⟩, ⟨nat_lit 0x9B6, nat_lit 0x9B9⟩,
     ⟨nat_lit 0x9BD, nat_lit 0x9BD⟩, ⟨nat_lit 0x9CE, nat_lit 0x9CE⟩,
     ⟨nat_lit 0x9DC, nat_lit 0x9DD⟩, ⟨nat_lit 0x9DF, nat_lit 0x9E1⟩,
     ⟨nat_lit 0x9F0, nat_lit 0x9F1⟩, ⟨nat_lit 0x9FC, nat_lit 0x9FC⟩,
     ⟨nat_lit 0xA05, nat_lit 0xA0A⟩, ⟨nat_lit 0xA0F, nat_lit 0xA10⟩,
     ⟨nat_lit 0xA13, nat_lit 0xA28⟩, ⟨nat_lit 0xA2A, nat_lit 0xA30⟩,
     ⟨nat_lit 0xA32, nat_lit 0xA33⟩, ⟨nat_lit 0xA35, nat_lit 0xA36⟩,
     ⟨nat_lit 0xA38, nat_lit 0xA39⟩, ⟨nat_lit 0xA59, nat_lit 0xA5C⟩,
     ⟨nat_lit 0xA5E, nat_lit 0xA5E⟩, ⟨nat_lit 0xA72, nat_lit 0xA74⟩,
     ⟨nat_lit 0xA85, nat_lit 0xA8D⟩, ⟨nat_lit 0xA8F, nat_lit 0xA91⟩,
     ⟨nat_lit 0xA93, nat_lit 0xAA8⟩, ⟨nat_lit 0xAAA, nat_lit 0xAB0⟩,
     ⟨nat_lit 0xAB2, nat_lit 0xAB3⟩, ⟨nat_lit 0xAB5, nat_lit 0xAB9⟩,
     ⟨nat_lit 0xABD, nat_lit 0xABD⟩, ⟨nat_lit 0xAD0, nat_lit 0xAD0⟩,
     ⟨nat_lit 0xAE0, nat_lit 0xAE1⟩, ⟨nat_lit 0xAF9, nat_lit 0xAF9⟩,
     ⟨nat_lit 0xB05, nat_lit 0xB0C⟩, ⟨nat_lit 0xB0F, nat_lit 0xB10⟩,
     ⟨nat_lit 0xB13, nat_lit 0xB28⟩, ⟨nat_lit 0xB2A, nat_lit 0xB30⟩,
     ⟨nat_lit 0xB32, nat_lit 0xB33⟩, ⟨nat_lit 0xB35, nat_lit 0xB39⟩,
     ⟨nat_lit 0xB3D, nat_lit 0xB3D⟩, ⟨nat_lit 0xB5C, nat_lit 0xB5D⟩,
     ⟨nat_lit 0xB5F, nat_lit 0xB61⟩, ⟨nat_lit 0xB71, nat_lit 0xB71⟩,
     ⟨nat_lit 0xB83, nat_lit 0xB83⟩, ⟨nat_lit 0xB85, nat_lit 0xB8A⟩,
     ⟨nat_lit 0xB8E, nat_lit 0xB90⟩, ⟨nat_lit 0xB92, nat_lit 0xB95⟩,
     ⟨nat_lit 0xB99, nat_lit 0xB9A⟩, ⟨nat_lit 0xB9C, nat_lit 0xB9C⟩,
     ⟨nat_lit 0xB9E, nat_lit 0xB9F⟩, ⟨nat_lit 0xBA3, nat_lit 0xBA4⟩,
     ⟨nat_lit 0xBA8, nat_lit 0xBAA⟩, ⟨nat_lit 0xBAE, nat_lit 0xBB9⟩,
     ⟨nat_lit 0xBD0, nat_lit 0xBD0⟩, ⟨nat_lit 0xC05, nat_lit 0xC0C⟩,
     ⟨nat_lit 0xC0E, nat_lit 0xC10⟩, ⟨nat_lit 0xC12, nat_lit 0xC28⟩,
     ⟨nat_lit 0xC2A, nat_lit 0xC39⟩, ⟨nat_lit 0xC3D, nat_lit 0xC3D⟩,
     ⟨nat_lit 0xC58, nat_lit 0xC5A⟩, ⟨nat_lit 0xC5D, nat_lit 0xC5D⟩,
     ⟨nat_lit 0xC60, nat_lit 0xC61⟩, ⟨nat_lit 0xC80, nat_lit 0xC80⟩,
     ⟨nat_lit 0xC85, nat_lit 0xC8C⟩, ⟨nat_lit 0xC8E, nat_lit 0xC90⟩,
     ⟨nat_lit 0xC92, nat_lit 0xCA8⟩, ⟨nat_lit 0xCAA, nat_lit 0xCB3⟩,
     ⟨nat_lit 0xCB5, nat_lit 0xCB9⟩, ⟨nat_lit 0xCBD, nat_lit 0xCBD⟩,
     ⟨nat_lit 0xCDD, nat_lit 0xCDE⟩, ⟨nat_lit 0xCE0, nat_lit 0xCE1⟩,
     ⟨nat_lit 0xCF1, nat_lit 0xCF2⟩, ⟨nat_lit 0xD04, nat_lit 0xD0C⟩,
     ⟨nat_lit 0xD0E, nat_lit 0xD10⟩, ⟨nat_lit 0xD12, nat_lit 0xD3A⟩,
     ⟨nat_lit 0xD3D, nat_lit 0xD3D⟩, ⟨nat_lit 0xD4E, nat_lit 0xD4E⟩,
     ⟨nat_lit 0xD54, nat_lit 0xD56⟩, ⟨nat_lit 0xD5F, nat_lit 0xD61⟩,
     ⟨nat_lit 0xD7A, nat_lit 0xD7F⟩, ⟨nat_lit 0xD85, nat_lit 0xD96⟩,
     ⟨nat_lit 0xD9A, nat_lit 0xDB1⟩, ⟨nat_lit 0xDB3, nat_lit 0xDBB⟩,
     ⟨nat_lit 0xDBD, nat_lit 0xDBD⟩, ⟨nat_lit 0xDC0, nat_lit 0xDC6⟩,
     ⟨nat_lit 0xE01, nat_lit 0xE30⟩, ⟨nat_lit 0xE32, nat_lit 0xE33⟩,
     ⟨nat_lit 0xE40, nat_lit 0xE45⟩, ⟨nat_lit 0xE81, nat_lit 0xE82⟩,
     ⟨nat_lit 0xE84, nat_lit 0xE84⟩, ⟨nat_lit 0xE86, nat_lit 0xE8A⟩,
     ⟨nat_lit 0xE8C, nat_lit 0xEA3⟩, ⟨nat_lit 0xEA5, nat_lit 0xEA5⟩,
     ⟨nat_lit 0xEA7, nat_lit 0xEB0⟩, ⟨nat_lit 0xEB2, nat_lit 0xEB3⟩,
     ⟨nat_lit 0xEBD, nat_lit 0xEBD⟩, ⟨nat_lit 0xEC0, nat_lit 0xEC4⟩,
     ⟨nat_lit 0xEDC, nat_lit 0xEDF⟩, ⟨nat_lit 0xF00, nat_lit 0xF00⟩,
     ⟨nat_lit 0xF40, nat_lit 0xF47⟩, ⟨nat_lit 0xF49, nat_lit 0xF6C⟩,
     ⟨nat_lit 0xF88, nat_lit 0xF8C⟩, ⟨nat_lit 0x1000, nat_lit 0x102A⟩,
     ⟨nat_lit 0x103F, nat_lit 0x103F⟩, ⟨nat_lit 0x1050, nat_lit 0x1055⟩,
     ⟨nat_lit 0x105A, nat_lit 0x105D⟩, ⟨nat_lit 0x1061, nat_lit 0x1061⟩,
     ⟨nat_lit 0x1065, nat_lit 0x1066⟩, ⟨nat_lit 0x106E, nat_lit 0x1070⟩,
     ⟨nat_lit 0x1075, nat_lit 0x1081⟩, ⟨nat_lit 0x108E, nat_lit 0x108E⟩,
     ⟨nat_lit 0x1100, nat_lit 0x1248⟩, ⟨nat_lit 0x124A, nat_lit 0x124D⟩,
     ⟨nat_lit 0x1250, nat_lit 0x1256⟩, ⟨nat_lit 0x1258, nat_lit 0x1258⟩,
     ⟨nat_lit 0x125A, nat_lit 0x125D⟩, ⟨nat_lit 0x1260, nat_lit 0x1288⟩,
     ⟨nat_lit 0x128A, nat_lit 0x128D⟩, ⟨nat_lit 0x1290, nat_lit 0x12B0⟩,
     ⟨nat_lit 0x12B2, nat_lit 0x12B5⟩, ⟨nat_lit 0x12B8, nat_lit 0x12BE⟩,
     ⟨nat_lit 0x12C0, nat_lit 0x12C0⟩, ⟨nat_lit 0x12C2, nat_lit 0x12C5⟩,
     ⟨nat_lit 0x12C8, nat_lit 0x12D6⟩, ⟨nat_lit 0x12D8, nat_lit 0x1310⟩,
     ⟨nat_lit 0x1312, nat_lit 0x1315⟩, ⟨nat_lit 0x1318, nat_lit 0x135A⟩,
     ⟨nat_lit 0x1380, nat_lit 0x138F⟩, ⟨nat_lit 0x1401, nat_lit 0x166C⟩,
     ⟨nat_lit 0x166F, nat_lit 0x167F⟩, ⟨nat_lit 0x1681, nat_lit 0x169A⟩,
     ⟨nat_lit 0x16A0, nat_lit 0x16EA⟩, ⟨nat_lit 0x16F1, nat_lit 0x16F8⟩,
     ⟨nat_lit 0x1700, nat_lit 0x1711⟩, ⟨nat_lit 0x171F, nat_lit 0x1731⟩,
     ⟨nat_lit 0x1740, nat_lit 0x1751⟩, ⟨nat_lit 0x1760, nat_lit 0x176C⟩,
     ⟨nat_lit 0x176E, nat_lit 0x1770⟩, ⟨nat_lit 0x1780, nat_lit 0x17B3⟩,
     ⟨nat_lit 0x17DC, nat_lit 0x17DC⟩, ⟨nat_lit 0x1820, nat_lit 0x1842⟩,
     ⟨nat_lit 0x1844, nat_lit 0x1878⟩, ⟨nat_lit 0x1880, nat_lit 0x1884⟩,
     ⟨nat_lit 0x1887, nat_lit 0x18A8⟩, ⟨nat_lit 0x18AA, nat_lit 0x18AA⟩,
     ⟨nat_lit 0x18B0, nat_lit 0x18F5⟩, ⟨nat_lit 0x1900, nat_lit 0x191E⟩,
     ⟨nat_lit 0x1950, nat_lit 0x196D⟩, ⟨nat_lit 0x1970, nat_lit 0x1974⟩,
     ⟨nat_lit 0x1980, nat_lit 0x19AB⟩, ⟨nat_lit 0x19B0, nat_lit 0x19C9⟩,
     ⟨nat_lit 0x1A00, nat_lit 0x1A16⟩, ⟨nat_lit 0x1A20, nat_lit 0x1A54⟩,
     ⟨nat_lit 0x1B05, nat_lit 0x1B33⟩, ⟨nat_lit 0x1B45, nat_lit 0x1B4C⟩,
     ⟨nat_lit 0x1B83, nat_lit 0x1BA0⟩, ⟨nat_lit 0x1BAE, nat_lit 0x1BAF⟩,
     ⟨nat_lit 0x1BBA, nat_lit 0x1BE5⟩, ⟨nat_lit 0x1C00, nat_lit 0x1C23⟩,
     ⟨nat_lit 0x1C4D, nat_lit 0x1C4F⟩, ⟨nat_lit 0x1C5A, nat_lit 0x1C77⟩,
     ⟨nat_lit 0x1CE9, nat_lit 0x1CEC⟩, ⟨nat_lit 0x1CEE, nat_lit 0x1CF3⟩,
     ⟨nat_lit 0x1CF5, nat_lit 0x1CF6⟩, ⟨nat_lit 0x1CFA, nat_lit 0x1CFA⟩,
     ⟨nat_lit 0x2135, nat_lit 0x2138⟩, ⟨nat_lit 0x2D30, nat_lit 0x2D67⟩,
     ⟨nat_lit 0x2D80, nat_lit 0x2D96⟩, ⟨nat_lit 0x2DA0, nat_lit 0x2DA6⟩,
     ⟨nat_lit 0x2DA8, nat_lit 0x2DAE⟩, ⟨nat_lit 0x2DB0, nat_lit 0x2DB6⟩,
     ⟨nat_lit 0x2DB8, nat_lit 0x2DBE⟩, ⟨nat_lit 0x2DC0, nat_lit 0x2DC6⟩,
     ⟨nat_lit 0x2DC8, nat_lit 0x2DCE⟩, ⟨nat_lit 0x2DD0, nat_lit 0x2DD6⟩,
     ⟨nat_lit 0x2DD8, nat_lit 0x2DDE⟩, ⟨nat_lit 0x3006, nat_lit 0x3006⟩,
     ⟨nat_lit 0x303C, nat_lit 0x303C⟩, ⟨nat_lit 0x3041, nat_lit 0x3096⟩,
     ⟨nat_lit 0x309F, nat_lit 0x309F⟩, ⟨nat_lit 0x30A1, nat_lit 0x30FA⟩,
     ⟨nat_lit 0x30FF, nat_lit 0x30FF⟩, ⟨nat_lit 0x3105, nat_lit 0x312F⟩,
     ⟨nat_lit 0x3131, nat_lit 0x318E⟩, ⟨nat_lit 0x31A0, nat_lit 0x31BF⟩,
     ⟨nat_lit 0x31F0, nat_lit 0x31FF⟩, ⟨nat_lit 0x3400, nat_lit 0x4DBF⟩,
     ⟨nat_lit 0x4E00, nat_lit 0xA014⟩, ⟨nat_lit 0xA016, nat_lit 0xA48C⟩,
     ⟨nat_lit 0xA4D0, nat_lit 0xA4F7⟩, ⟨nat_lit 0xA500, nat_lit 0xA60B⟩,
     ⟨nat_lit 0xA610, nat_lit 0xA61F⟩, ⟨nat_lit 0xA62A, nat_lit 0xA62B⟩,
     ⟨nat_lit 0xA66E, nat_lit 0xA66E⟩, ⟨nat_lit 0xA6A0, nat_lit 0xA6E5⟩,
     ⟨nat_lit 0xA78F, nat_lit 0xA78F⟩, ⟨nat_lit 0xA7F7, nat_lit 0xA7F7⟩,
     ⟨nat_lit 0xA7FB, nat_lit 0xA801⟩, ⟨nat_lit 0xA803, nat_lit 0xA805⟩,
     ⟨nat_lit 0xA807, nat_lit 0xA80A⟩, ⟨nat_lit 0xA80C, nat_lit 0xA822⟩,
     ⟨nat_lit 0xA840, nat_lit 0xA873⟩, ⟨nat_lit 0xA882, nat_lit 0xA8B3⟩,
     ⟨nat_lit 0xA8F2, nat_lit 0xA8F7⟩, ⟨nat_lit 0xA8FB, nat_lit 0xA8FB⟩,
     ⟨nat_lit 0xA8FD, nat_lit 0xA8FE⟩, ⟨nat_lit 0xA90A, nat_lit 0xA925⟩,
     ⟨nat_lit 0xA930, nat_lit 0xA946⟩, ⟨nat_lit 0xA960, nat_lit 0xA97C⟩,
     ⟨nat_lit 0xA984, nat_lit 0xA9B2⟩, ⟨nat_lit 0xA9E0, nat_lit 0xA9E4⟩,
     ⟨nat_lit 0xA9E7, nat_lit 0xA9EF⟩, ⟨nat_lit 0xA9FA, nat_lit 0xA9FE⟩,
     ⟨nat_lit 0xAA00, nat_lit 0xAA28⟩, ⟨nat_lit 0xAA40, nat_lit 0xAA42⟩,
     ⟨nat_lit 0xAA44, nat_lit 0xAA4B⟩, ⟨nat_lit 0xAA60, nat_lit 0xAA6F⟩,
     ⟨nat_lit 0xAA71, nat_lit 0xAA76⟩, ⟨nat_lit 0xAA7A, nat_lit 0xAA7A⟩,
     ⟨nat_lit 0xAA7E, nat_lit 0xAAAF⟩, ⟨nat_lit 0xAAB1, nat_lit 0xAAB1⟩,
     ⟨nat_lit 0xAAB5, nat_lit 0xAAB6⟩, ⟨nat_lit 0xAAB9, nat_lit 0xAABD⟩,
     ⟨nat_lit 0xAAC0, nat_lit 0xAAC0⟩, ⟨nat_lit 0xAAC2, nat_lit 0xAAC2⟩,
     ⟨nat_lit 0xAADB, nat_lit 0xAADC⟩, ⟨nat_lit 0xAAE0, nat_lit 0xAAEA⟩,
     ⟨nat_lit 0xAAF2, nat_lit 0xAAF2⟩, ⟨nat_lit 0xAB01, nat_lit 0xAB06⟩,
     ⟨nat_lit 0xAB09, nat_lit 0xAB0E⟩, ⟨nat_lit 0xAB11, nat_lit 0xAB16⟩,
     ⟨nat_lit 0xAB20, nat_lit 0xAB26⟩, ⟨nat_lit 0xAB28, nat_lit 0xAB2E⟩,
     ⟨nat_lit 0xABC0, nat_lit 0xABE2⟩, ⟨nat_lit 0xAC00, nat_lit 0xD7A3⟩,
     ⟨nat_lit 0xD7B0, nat_lit 0xD7C6⟩, ⟨nat_lit 0xD7CB, nat_lit 0xD7FB⟩,
     ⟨nat_lit 0xF900, nat_lit 0xFA6D⟩, ⟨nat_lit 0xFA70, nat_lit 0xFAD9⟩,
     ⟨nat_lit 0xFB1D, nat_lit 0xFB1D⟩, ⟨nat_lit 0xFB1F, nat_lit 0xFB28⟩,
     ⟨nat_lit 0xFB2A, nat_lit 0xFB36⟩, ⟨nat_lit 0xFB38, nat_lit 0xFB3C⟩,
     ⟨nat_lit 0xFB3E, nat_lit 0xFB3E⟩, ⟨nat_lit 0xFB40, nat_lit 0xFB41⟩,
     ⟨nat_lit 0xFB43, nat_lit 0xFB44⟩, ⟨nat_lit 0xFB46, nat_lit 0xFBB1⟩,
     ⟨nat_lit 0xFBD3, nat_lit 0xFD3D⟩, ⟨nat_lit 0xFD50, nat_lit 0xFD8F⟩,
     ⟨nat_lit 0xFD92, nat_lit 0xFDC7⟩, ⟨nat_lit 0xFDF0, nat_lit 0xFDFB⟩,
     ⟨nat_lit 0xFE70, nat_lit 0xFE74⟩, ⟨nat_lit 0xFE76, nat_lit 0xFEFC⟩,
     ⟨nat_lit 0xFF66, nat_lit 0xFF6F⟩, ⟨nat_lit 0xFF71, nat_lit 0xFF9D⟩,
     ⟨nat_lit 0xFFA0, nat_lit 0xFFBE⟩, ⟨nat_lit 0xFFC2, nat_lit 0xFFC7⟩,
     ⟨nat_lit 0xFFCA, nat_lit 0xFFCF⟩, ⟨nat_lit 0xFFD2, nat_lit 0xFFD7⟩,
     ⟨nat_lit 0xFFDA, nat_lit 0xFFDC⟩, ⟨nat_lit 0x10000, nat_lit 0x1000B⟩,
     ⟨nat_lit 0x1000D, nat_lit 0x10026⟩, ⟨nat_lit 0x10028, nat_lit 0x1003A⟩,
     ⟨nat_lit 0x1003C, nat_lit 0x1003D⟩, ⟨nat_lit 0x1003F, nat_lit 0x1004D⟩,
     ⟨nat_lit 0x10050, nat_lit 0x1005D⟩, ⟨nat_lit 0x10080, nat_lit 0x100FA⟩,
     ⟨nat_lit 0x10280, nat_lit 0x1029C⟩, ⟨nat_lit 0x102A0, nat_lit 0x102D0⟩,
     ⟨nat_lit 0x10300, nat_lit 0x1031F⟩, ⟨nat_lit 0x1032D, nat_lit 0x10340⟩,
     ⟨nat_lit 0x10342, nat_lit 0x10349⟩, ⟨nat_lit 0x10350, nat_lit 0x10375⟩,
     ⟨nat_lit 0x10380, nat_lit 0x1039D⟩, ⟨nat_lit 0x103A0, nat_lit 0x103C3⟩,
     ⟨nat_lit 0x103C8, nat_lit 0x103CF⟩, ⟨nat_lit 0x10450, nat_lit 0x1049D⟩,
     ⟨nat_lit 0x10500, nat_lit 0x10527⟩, ⟨nat_lit 0x10530, nat_lit 0x10563⟩,
     ⟨nat_lit 0x105C0, nat_lit 0x105F3⟩, ⟨nat_lit 0x10600, nat_lit 0x10736⟩,
     ⟨nat_lit 0x10740, nat_lit 0x10755⟩, ⟨nat_lit 0x10760, nat_lit 0x10767⟩,
     ⟨nat_lit 0x10800, nat_lit 0x10805⟩, ⟨nat_lit 0x10808, nat_lit 0x10808⟩,
     ⟨nat_lit 0x1080A, nat_lit 0x10835⟩, ⟨nat_lit 0x10837, nat_lit 0x10838⟩,
     ⟨nat_lit 0x1083C, nat_lit 0x1083C⟩, ⟨nat_lit 0x1083F, nat_lit 0x10855⟩,
     ⟨nat_lit 0x10860, nat_lit 0x10876⟩, ⟨nat_lit 0x10880, nat_lit 0x1089E⟩,
     ⟨nat_lit 0x108E0, nat_lit 0x108F2⟩, ⟨nat_lit 0x108F4, nat_lit 0x108F5⟩,
     ⟨nat_lit 0x10900, nat_lit 0x10915⟩, ⟨nat_lit 0x10920, nat_lit 0x10939⟩,
     ⟨nat_lit 0x10980, nat_lit 0x109B7⟩, ⟨nat_lit 0x109BE, nat_lit 0x109BF⟩,
     ⟨nat_lit 0x10A00, nat_lit 0x10A00⟩, ⟨nat_lit 0x10A10, nat_lit 0x10A13⟩,
     ⟨nat_lit 0x10A15, nat_lit 0x10A17⟩, ⟨nat_lit 0x10A19, nat_lit 0x10A35⟩,
     ⟨nat_lit 0x10A60, nat_lit 0x10A7C⟩, ⟨nat_lit 0x10A80, nat_lit 0x10A9C⟩,
     ⟨nat_lit 0x10AC0, nat_lit 0x10AC7⟩, ⟨nat_lit 0x10AC9, nat_lit 0x10AE4⟩,
     ⟨nat_lit 0x10B00, nat_lit 0x10B35⟩, ⟨nat_lit 0x10B40, nat_lit 0x10B55⟩,
     ⟨nat_lit 0x10B60, nat_lit 0x10B72⟩, ⟨nat_lit 0x10B80, nat_lit 0x10B91⟩,
     ⟨nat_lit 0x10C00, nat_lit 0x10C48⟩, ⟨nat_lit 0x10D00, nat_lit 0x10D23⟩,
     ⟨nat_lit 0x10D4A, nat_lit 0x10D4D⟩, ⟨nat_lit 0x10D4F, nat_lit 0x10D4F⟩,
     ⟨nat_lit 0x10E80, nat_lit 0x10EA9⟩, ⟨nat_lit 0x10EB0, nat_lit 0x10EB1⟩,
     ⟨nat_lit 0x10EC2, nat_lit 0x10EC4⟩, ⟨nat_lit 0x10F00, nat_lit 0x10F1C⟩,
     ⟨nat_lit 0x10F27, nat_lit 0x10F27⟩, ⟨nat_lit 0x10F30, nat_lit 0x10F45⟩,
     ⟨nat_lit 0x10F70, nat_lit 0x10F81⟩, ⟨nat_lit 0x10FB0, nat_lit 0x10FC4⟩,
     ⟨nat_lit 0x10FE0, nat_lit 0x10FF6⟩, ⟨nat_lit 0x11003, nat_lit 0x11037⟩,
     ⟨nat_lit 0x11071, nat_lit 0x11072⟩, ⟨nat_lit 0x11075, nat_lit 0x11075⟩,
     ⟨nat_lit 0x11083, nat_lit 0x110AF⟩, ⟨nat_lit 0x110D0, nat_lit 0x110E8⟩,
     ⟨nat_lit 0x11103, nat_lit 0x11126⟩, ⟨nat_lit 0x11144, nat_lit 0x11144⟩,
     ⟨nat_lit 0x11147, nat_lit 0x11147⟩, ⟨nat_lit 0x11150, nat_lit 0x11172⟩,
     ⟨nat_lit 0x11176, nat_lit 0x11176⟩, ⟨nat_lit 0x11183, nat_lit 0x111B2⟩,
     ⟨nat_lit 0x111C1, nat_lit 0x111C4⟩, ⟨nat_lit 0x111DA, nat_lit 0x111DA⟩,
     ⟨nat_lit 0x111DC, nat_lit 0x111DC⟩, ⟨nat_lit 0x11200, nat_lit 0x11211⟩,
     ⟨nat_lit 0x11213, nat_lit 0x1122B⟩, ⟨nat_lit 0x1123F, nat_lit 0x11240⟩,
     ⟨nat_lit 0x11280, nat_lit 0x11286⟩, ⟨nat_lit 0x11288, nat_lit 0x11288⟩,
     ⟨nat_lit 0x1128A, nat_lit 0x1128D⟩, ⟨nat_lit 0x1128F, nat_lit 0x1129D⟩,
     ⟨nat_lit 0x1129F, nat_lit 0x112A8⟩, ⟨nat_lit 0x112B0, nat_lit 0x112DE⟩,
     ⟨nat_lit 0x11305, nat_lit 0x1130C⟩, ⟨nat_lit 0x1130F, nat_lit 0x11310⟩,
     ⟨nat_lit 0x11313, nat_lit 0x11328⟩, ⟨nat_lit 0x1132A, nat_lit 0x11330⟩,
     ⟨nat_lit 0x11332, nat_lit 0x11333⟩, ⟨nat_lit 0x11335, nat_lit 0x11339⟩,
     ⟨nat_lit 0x1133D, nat_lit 0x1133D⟩, ⟨nat_lit 0x11350, nat_lit 0x11350⟩,
     ⟨nat_lit 0x1135D, nat_lit 0x11361⟩, ⟨nat_lit 0x11380, nat_lit 0x11389⟩,
     ⟨nat_lit 0x1138B, nat_lit 0x1138B⟩, ⟨nat_lit 0x1138E, nat_lit 0x1138E⟩,
     ⟨nat_lit 0x11390, nat_lit 0x113B5⟩, ⟨nat_lit 0x113B7, nat_lit 0x113B7⟩,
     ⟨nat_lit 0x113D1, nat_lit 0x113D1⟩, ⟨nat_lit 0x113D3, nat_lit 0x113D3⟩,
     ⟨nat_lit 0x11400, nat_lit 0x11434⟩, ⟨nat_lit 0x11447, nat_lit 0x1144A⟩,
     ⟨nat_lit 0x1145F, nat_lit 0x11461⟩, ⟨nat_lit 0x11480, nat_lit 0x114AF⟩,
     ⟨nat_lit 0x114C4, nat_lit 0x114C5⟩, ⟨nat_lit 0x114C7, nat_lit 0x114C7⟩,
     ⟨nat_lit 0x11580, nat_lit 0x115AE⟩, ⟨nat_lit 0x115D8, nat_lit 0x115DB⟩,
     ⟨nat_lit 0x11600, nat_lit 0x1162F⟩, ⟨nat_lit 0x11644, nat_lit 0x11644⟩,
     ⟨nat_lit 0x11680, nat_lit 0x116AA⟩, ⟨nat_lit 0x116B8, nat_lit 0x116B8⟩,
     ⟨nat_lit 0x11700, nat_lit 0x1171A⟩, ⟨nat_lit 0x11740, nat_lit 0x11746⟩,
     ⟨nat_lit 0x11800, nat_lit 0x1182B⟩, ⟨nat_lit 0x118FF, nat_lit 0x11906⟩,
     ⟨nat_lit 0x11909, nat_lit 0x11909⟩, ⟨nat_lit 0x1190C, nat_lit 0x11913⟩,
     ⟨nat_lit 0x11915, nat_lit 0x11916⟩, ⟨nat_lit 0x11918, nat_lit 0x1192F⟩,
     ⟨nat_lit 0x1193F, nat_lit 0x1193F⟩, ⟨nat_lit 0x11941, nat_lit 0x11941⟩,
     ⟨nat_lit 0x119A0, nat_lit 0x119A7⟩, ⟨nat_lit 0x119AA, nat_lit 0x119D0⟩,
     ⟨nat_lit 0x119E1, nat_lit 0x119E1⟩, ⟨nat_lit 0x119E3, nat_lit 0x119E3⟩,
     ⟨nat_lit 0x11A00, nat_lit 0x11A00⟩, ⟨nat_lit 0x11A0B, nat_lit 0x11A32⟩,
     ⟨nat_lit 0x11A3A, nat_lit 0x11A3A⟩, ⟨nat_lit 0x11A50, nat_lit 0x11A50⟩,
     ⟨nat_lit 0x11A5C, nat_lit 0x11A89⟩, ⟨nat_lit 0x11A9D, nat_lit 0x11A9D⟩,
     ⟨nat_lit 0x11AB0, nat_lit 0x11AF8⟩, ⟨nat_lit 0x11BC0, nat_lit 0x11BE0⟩,
     ⟨nat_lit 0x11C00, nat_lit 0x11C08⟩, ⟨nat_lit 0x11C0A, nat_lit 0x11C2E⟩,
     ⟨nat_lit 0x11C40, nat_lit 0x11C40⟩, ⟨nat_lit 0x11C72, nat_lit 0x11C8F⟩,
     ⟨nat_lit 0x11D00, nat_lit 0x11D06⟩, ⟨nat_lit 0x11D08, nat_lit 0x11D09⟩,
     ⟨nat_lit 0x11D0B, nat_lit 0x11D30⟩, ⟨nat_lit 0x11D46, nat_lit 0x11D46⟩,
     ⟨nat_lit 0x11D60, nat_lit 0x11D65⟩, ⟨nat_lit 0x11D67, nat_lit 0x11D68⟩,
     ⟨nat_lit 0x11D6A, nat_lit 0x11D89⟩, ⟨nat_lit 0x11D98, nat_lit 0x11D98⟩,
     ⟨nat_lit 0x11EE0, nat_lit 0x11EF2⟩, ⟨nat_lit 0x11F02, nat_lit 0x11F02⟩,
     ⟨nat_lit 0x11F04, nat_lit 0x11F10⟩, ⟨nat_lit 0x11F12, nat_lit 0x11F33⟩,
     ⟨nat_lit 0x11FB0, nat_lit 0x11FB0⟩, ⟨nat_lit 0x12000, nat_lit 0x12399⟩,
     ⟨nat_lit 0x12480, nat_lit 0x12543⟩, ⟨nat_lit 0x12F90, nat_lit 0x12FF0⟩,
     ⟨nat_lit 0x13000, nat_lit 0x1342F⟩, ⟨nat_lit 0x13441, nat_lit 0x13446⟩,
     ⟨nat_lit 0x13460, nat_lit 0x143FA⟩, ⟨nat_lit 0x14400, nat_lit 0x14646⟩,
     ⟨nat_lit 0x16100, nat_lit 0x1611D⟩, ⟨nat_lit 0x16800, nat_lit 0x16A38⟩,
     ⟨nat_lit 0x16A40, nat_lit 0x16A5E⟩, ⟨nat_lit 0x16A70, nat_lit 0x16ABE⟩,
     ⟨nat_lit 0x16AD0, nat_lit 0x16AED⟩, ⟨nat_lit 0x16B00, nat_lit 0x16B2F⟩,
     ⟨nat_lit 0x16B63, nat_lit 0x16B77⟩, ⟨nat_lit 0x16B7D, nat_lit 0x16B8F⟩,
     ⟨nat_lit 0x16D43, nat_lit 0x16D6A⟩, ⟨nat_lit 0x16F00, nat_lit 0x16F4A⟩,
     ⟨nat_lit 0x16F50, nat_lit 0x16F50⟩, ⟨nat_lit 0x17000, nat_lit 0x187F7⟩,
     ⟨nat_lit 0x18800, nat_lit 0x18CD5⟩, ⟨nat_lit 0x18CFF, nat_lit 0x18D08⟩,
     ⟨nat_lit 0x1B000, nat_lit 0x1B122⟩, ⟨nat_lit 0x1B132, nat_lit 0x1B132⟩,
     ⟨nat_lit 0x1B150, nat_lit 0x1B152⟩, ⟨nat_lit 0x1B155, nat_lit 0x1B155⟩,
     ⟨nat_lit 0x1B164, nat_lit 0x1B167⟩, ⟨nat_lit 0x1B170, nat_lit 0x1B2FB⟩,
     ⟨nat_lit 0x1BC00, nat_lit 0x1BC6A⟩, ⟨nat_lit 0x1BC70, nat_lit 0x1BC7C⟩,
     ⟨nat_lit 0x1BC80, nat_lit 0x1BC88⟩, ⟨nat_lit 0x1BC90, nat_lit 0x1BC99⟩,
     ⟨nat_lit 0x1DF0A, nat_lit 0x1DF0A⟩, ⟨nat_lit 0x1E100, nat_lit 0x1E12C⟩,
     ⟨nat_lit 0x1E14E, nat_lit 0x1E14E⟩, ⟨nat_lit 0x1E290, nat_lit 0x1E2AD⟩,
     ⟨nat_lit 0x1E2C0, nat_lit 0x1E2EB⟩, ⟨nat_lit 0x1E4D0, nat_lit 0x1E4EA⟩,
     ⟨nat_lit 0x1E5D0, nat_lit 0x1E5ED⟩, ⟨nat_lit 0x1E5F0, nat_lit 0x1E5F0⟩,
     ⟨nat_lit 0x1E7E0, nat_lit 0x1E7E6⟩, ⟨nat_lit 0x1E7E8, nat_lit 0x1E7EB⟩,
     ⟨nat_lit 0x1E7ED, nat_lit 0x1E7EE⟩, ⟨nat_lit 0x1E7F0, nat_lit 0x1E7FE⟩,
     ⟨nat_lit 0x1E800, nat_lit 0x1E8C4⟩, ⟨nat_lit 0x1EE00, nat_lit 0x1EE03⟩,
     ⟨nat_lit 0x1EE05, nat_lit 0x1EE1F⟩, ⟨nat_lit 0x1EE21, nat_lit 0x1EE22⟩,
     ⟨nat_lit 0x1EE24, nat_lit 0x1EE24⟩, ⟨nat_lit 0x1EE27, nat_lit 0x1EE27⟩,
     ⟨nat_lit 0x1EE29, nat_lit 0x1EE32⟩, ⟨nat_lit 0x1EE34, nat_lit 0x1EE37⟩,
     ⟨nat_lit 0x1EE39, nat_lit 0x1EE39⟩, ⟨nat_lit 0x1EE3B, nat_lit 0x1EE3B⟩,
     ⟨nat_lit 0x1EE42, nat_lit 0x1EE42⟩, ⟨nat_lit 0x1EE47, nat_lit 0x1EE47⟩,
     ⟨nat_lit 0x1EE49, nat_lit 0x1EE49⟩, ⟨nat_lit 0x1EE4B, nat_lit 0x1EE4B⟩,
     ⟨nat_lit 0x1EE4D, nat_lit 0x1EE4F⟩, ⟨nat_lit 0x1EE51, nat_lit 0x1EE52⟩,
     ⟨nat_lit 0x1EE54, nat_lit 0x1EE54⟩, ⟨nat_lit 0x1EE57, nat_lit 0x1EE57⟩,
     ⟨nat_lit 0x1EE59, nat_lit 0x1EE59⟩, ⟨nat_lit 0x1EE5B, nat_lit 0x1EE5B⟩,
     ⟨nat_lit 0x1EE5D, nat_lit 0x1EE5D⟩, ⟨nat_lit 0x1EE5F, nat_lit 0x1EE5F⟩,
     ⟨nat_lit 0x1EE61, nat_lit 0x1EE62⟩, ⟨nat_lit 0x1EE64, nat_lit 0x1EE64⟩,
     ⟨nat_lit 0x1EE67, nat_lit 0x1EE6A⟩, ⟨nat_lit 0x1EE6C, nat_lit 0x1EE72⟩,
     ⟨nat_lit 0x1EE74, nat_lit 0x1EE77⟩, ⟨nat_lit 0x1EE79, nat_lit 0x1EE7C⟩,
     ⟨nat_lit 0x1EE7E, nat_lit 0x1EE7E⟩, ⟨nat_lit 0x1EE80, nat_lit 0x1EE89⟩,
     ⟨nat_lit 0x1EE8B, nat_lit 0x1EE9B⟩, ⟨nat_lit 0x1EEA1, nat_lit 0x1EEA3⟩,
     ⟨nat_lit 0x1EEA5, nat_lit 0x1EEA9⟩, ⟨nat_lit 0x1EEAB, nat_lit 0x1EEBB⟩,
     ⟨nat_lit 0x20000, nat_lit 0x2A6DF⟩, ⟨nat_lit 0x2A700, nat_lit 0x2B739⟩,
     ⟨nat_lit 0x2B740, nat_lit 0x2B81D⟩, ⟨nat_lit 0x2B820, nat_lit 0x2CEA1⟩,
     ⟨nat_lit 0x2CEB0, nat_lit 0x2EBE0⟩, ⟨nat_lit 0x2EBF0, nat_lit 0x2EE5D⟩,
     ⟨nat_lit 0x2F800, nat_lit 0x2FA1D⟩, ⟨nat_lit 0x30000, nat_lit 0x3134A⟩,
     ⟨nat_lit 0x31350, nat_lit 0x323AF⟩]
  | nonspacingMark =>
    [⟨nat_lit 0x300, nat_lit 0x36F⟩, ⟨nat_lit 0x483, nat_lit 0x487⟩,
     ⟨nat_lit 0x591, nat_lit 0x5BD⟩, ⟨nat_lit 0x5BF, nat_lit 0x5BF⟩,
     ⟨nat_lit 0x5C1, nat_lit 0x5C2⟩, ⟨nat_lit 0x5C4, nat_lit 0x5C5⟩,
     ⟨nat_lit 0x5C7, nat_lit 0x5C7⟩, ⟨nat_lit 0x610, nat_lit 0x61A⟩,
     ⟨nat_lit 0x64B, nat_lit 0x65F⟩, ⟨nat_lit 0x670, nat_lit 0x670⟩,
     ⟨nat_lit 0x6D6, nat_lit 0x6DC⟩, ⟨nat_lit 0x6DF, nat_lit 0x6E4⟩,
     ⟨nat_lit 0x6E7, nat_lit 0x6E8⟩, ⟨nat_lit 0x6EA, nat_lit 0x6ED⟩,
     ⟨nat_lit 0x711, nat_lit 0x711⟩, ⟨nat_lit 0x730, nat_lit 0x74A⟩,
     ⟨nat_lit 0x7A6, nat_lit 0x7B0⟩, ⟨nat_lit 0x7EB, nat_lit 0x7F3⟩,
     ⟨nat_lit 0x7FD, nat_lit 0x7FD⟩, ⟨nat_lit 0x816, nat_lit 0x819⟩,
     ⟨nat_lit 0x81B, nat_lit 0x823⟩, ⟨nat_lit 0x825, nat_lit 0x827⟩,
     ⟨nat_lit 0x829, nat_lit 0x82D⟩, ⟨nat_lit 0x859, nat_lit 0x85B⟩,
     ⟨nat_lit 0x897, nat_lit 0x89F⟩, ⟨nat_lit 0x8CA, nat_lit 0x8E1⟩,
     ⟨nat_lit 0x8E3, nat_lit 0x902⟩, ⟨nat_lit 0x93A, nat_lit 0x93A⟩,
     ⟨nat_lit 0x93C, nat_lit 0x93C⟩, ⟨nat_lit 0x941, nat_lit 0x948⟩,
     ⟨nat_lit 0x94D, nat_lit 0x94D⟩, ⟨nat_lit 0x951, nat_lit 0x957⟩,
     ⟨nat_lit 0x962, nat_lit 0x963⟩, ⟨nat_lit 0x981, nat_lit 0x981⟩,
     ⟨nat_lit 0x9BC, nat_lit 0x9BC⟩, ⟨nat_lit 0x9C1, nat_lit 0x9C4⟩,
     ⟨nat_lit 0x9CD, nat_lit 0x9CD⟩, ⟨nat_lit 0x9E2, nat_lit 0x9E3⟩,
     ⟨nat_lit 0x9FE, nat_lit 0x9FE⟩, ⟨nat_lit 0xA01, nat_lit 0xA02⟩,
     ⟨nat_lit 0xA3C, nat_lit 0xA3C⟩, ⟨nat_lit 0xA41, nat_lit 0xA42⟩,
     ⟨nat_lit 0xA47, nat_lit 0xA48⟩, ⟨nat_lit 0xA4B, nat_lit 0xA4D⟩,
     ⟨nat_lit 0xA51, nat_lit 0xA51⟩, ⟨nat_lit 0xA70, nat_lit 0xA71⟩,
     ⟨nat_lit 0xA75, nat_lit 0xA75⟩, ⟨nat_lit 0xA81, nat_lit 0xA82⟩,
     ⟨nat_lit 0xABC, nat_lit 0xABC⟩, ⟨nat_lit 0xAC1, nat_lit 0xAC5⟩,
     ⟨nat_lit 0xAC7, nat_lit 0xAC8⟩, ⟨nat_lit 0xACD, nat_lit 0xACD⟩,
     ⟨nat_lit 0xAE2, nat_lit 0xAE3⟩, ⟨nat_lit 0xAFA, nat_lit 0xAFF⟩,
     ⟨nat_lit 0xB01, nat_lit 0xB01⟩, ⟨nat_lit 0xB3C, nat_lit 0xB3C⟩,
     ⟨nat_lit 0xB3F, nat_lit 0xB3F⟩, ⟨nat_lit 0xB41, nat_lit 0xB44⟩,
     ⟨nat_lit 0xB4D, nat_lit 0xB4D⟩, ⟨nat_lit 0xB55, nat_lit 0xB56⟩,
     ⟨nat_lit 0xB62, nat_lit 0xB63⟩, ⟨nat_lit 0xB82, nat_lit 0xB82⟩,
     ⟨nat_lit 0xBC0, nat_lit 0xBC0⟩, ⟨nat_lit 0xBCD, nat_lit 0xBCD⟩,
     ⟨nat_lit 0xC00, nat_lit 0xC00⟩, ⟨nat_lit 0xC04, nat_lit 0xC04⟩,
     ⟨nat_lit 0xC3C, nat_lit 0xC3C⟩, ⟨nat_lit 0xC3E, nat_lit 0xC40⟩,
     ⟨nat_lit 0xC46, nat_lit 0xC48⟩, ⟨nat_lit 0xC4A, nat_lit 0xC4D⟩,
     ⟨nat_lit 0xC55, nat_lit 0xC56⟩, ⟨nat_lit 0xC62, nat_lit 0xC63⟩,
     ⟨nat_lit 0xC81, nat_lit 0xC81⟩, ⟨nat_lit 0xCBC, nat_lit 0xCBC⟩,
     ⟨nat_lit 0xCBF, nat_lit 0xCBF⟩, ⟨nat_lit 0xCC6, nat_lit 0xCC6⟩,
     ⟨nat_lit 0xCCC, nat_lit 0xCCD⟩, ⟨nat_lit 0xCE2, nat_lit 0xCE3⟩,
     ⟨nat_lit 0xD00, nat_lit 0xD01⟩, ⟨nat_lit 0xD3B, nat_lit 0xD3C⟩,
     ⟨nat_lit 0xD41, nat_lit 0xD44⟩, ⟨nat_lit 0xD4D, nat_lit 0xD4D⟩,
     ⟨nat_lit 0xD62, nat_lit 0xD63⟩, ⟨nat_lit 0xD81, nat_lit 0xD81⟩,
     ⟨nat_lit 0xDCA, nat_lit 0xDCA⟩, ⟨nat_lit 0xDD2, nat_lit 0xDD4⟩,
     ⟨nat_lit 0xDD6, nat_lit 0xDD6⟩, ⟨nat_lit 0xE31, nat_lit 0xE31⟩,
     ⟨nat_lit 0xE34, nat_lit 0xE3A⟩, ⟨nat_lit 0xE47, nat_lit 0xE4E⟩,
     ⟨nat_lit 0xEB1, nat_lit 0xEB1⟩, ⟨nat_lit 0xEB4, nat_lit 0xEBC⟩,
     ⟨nat_lit 0xEC8, nat_lit 0xECE⟩, ⟨nat_lit 0xF18, nat_lit 0xF19⟩,
     ⟨nat_lit 0xF35, nat_lit 0xF35⟩, ⟨nat_lit 0xF37, nat_lit 0xF37⟩,
     ⟨nat_lit 0xF39, nat_lit 0xF39⟩, ⟨nat_lit 0xF71, nat_lit 0xF7E⟩,
     ⟨nat_lit 0xF80, nat_lit 0xF84⟩, ⟨nat_lit 0xF86, nat_lit 0xF87⟩,
     ⟨nat_lit 0xF8D, nat_lit 0xF97⟩, ⟨nat_lit 0xF99, nat_lit 0xFBC⟩,
     ⟨nat_lit 0xFC6, nat_lit 0xFC6⟩, ⟨nat_lit 0x102D, nat_lit 0x1030⟩,
     ⟨nat_lit 0x1032, nat_lit 0x1037⟩, ⟨nat_lit 0x1039, nat_lit 0x103A⟩,
     ⟨nat_lit 0x103D, nat_lit 0x103E⟩, ⟨nat_lit 0x1058, nat_lit 0x1059⟩,
     ⟨nat_lit 0x105E, nat_lit 0x1060⟩, ⟨nat_lit 0x1071, nat_lit 0x1074⟩,
     ⟨nat_lit 0x1082, nat_lit 0x1082⟩, ⟨nat_lit 0x1085, nat_lit 0x1086⟩,
     ⟨nat_lit 0x108D, nat_lit 0x108D⟩, ⟨nat_lit 0x109D, nat_lit 0x109D⟩,
     ⟨nat_lit 0x135D, nat_lit 0x135F⟩, ⟨nat_lit 0x1712, nat_lit 0x1714⟩,
     ⟨nat_lit 0x1732, nat_lit 0x1733⟩, ⟨nat_lit 0x1752, nat_lit 0x1753⟩,
     ⟨nat_lit 0x1772, nat_lit 0x1773⟩, ⟨nat_lit 0x17B4, nat_lit 0x17B5⟩,
     ⟨nat_lit 0x17B7, nat_lit 0x17BD⟩, ⟨nat_lit 0x17C6, nat_lit 0x17C6⟩,
     ⟨nat_lit 0x17C9, nat_lit 0x17D3⟩, ⟨nat_lit 0x17DD, nat_lit 0x17DD⟩,
     ⟨nat_lit 0x180B, nat_lit 0x180D⟩, ⟨nat_lit 0x180F, nat_lit 0x180F⟩,
     ⟨nat_lit 0x1885, nat_lit 0x1886⟩, ⟨nat_lit 0x18A9, nat_lit 0x18A9⟩,
     ⟨nat_lit 0x1920, nat_lit 0x1922⟩, ⟨nat_lit 0x1927, nat_lit 0x1928⟩,
     ⟨nat_lit 0x1932, nat_lit 0x1932⟩, ⟨nat_lit 0x1939, nat_lit 0x193B⟩,
     ⟨nat_lit 0x1A17, nat_lit 0x1A18⟩, ⟨nat_lit 0x1A1B, nat_lit 0x1A1B⟩,
     ⟨nat_lit 0x1A56, nat_lit 0x1A56⟩, ⟨nat_lit 0x1A58, nat_lit 0x1A5E⟩,
     ⟨nat_lit 0x1A60, nat_lit 0x1A60⟩, ⟨nat_lit 0x1A62, nat_lit 0x1A62⟩,
     ⟨nat_lit 0x1A65, nat_lit 0x1A6C⟩, ⟨nat_lit 0x1A73, nat_lit 0x1A7C⟩,
     ⟨nat_lit 0x1A7F, nat_lit 0x1A7F⟩, ⟨nat_lit 0x1AB0, nat_lit 0x1ABD⟩,
     ⟨nat_lit 0x1ABF, nat_lit 0x1ACE⟩, ⟨nat_lit 0x1B00, nat_lit 0x1B03⟩,
     ⟨nat_lit 0x1B34, nat_lit 0x1B34⟩, ⟨nat_lit 0x1B36, nat_lit 0x1B3A⟩,
     ⟨nat_lit 0x1B3C, nat_lit 0x1B3C⟩, ⟨nat_lit 0x1B42, nat_lit 0x1B42⟩,
     ⟨nat_lit 0x1B6B, nat_lit 0x1B73⟩, ⟨nat_lit 0x1B80, nat_lit 0x1B81⟩,
     ⟨nat_lit 0x1BA2, nat_lit 0x1BA5⟩, ⟨nat_lit 0x1BA8, nat_lit 0x1BA9⟩,
     ⟨nat_lit 0x1BAB, nat_lit 0x1BAD⟩, ⟨nat_lit 0x1BE6, nat_lit 0x1BE6⟩,
     ⟨nat_lit 0x1BE8, nat_lit 0x1BE9⟩, ⟨nat_lit 0x1BED, nat_lit 0x1BED⟩,
     ⟨nat_lit 0x1BEF, nat_lit 0x1BF1⟩, ⟨nat_lit 0x1C2C, nat_lit 0x1C33⟩,
     ⟨nat_lit 0x1C36, nat_lit 0x1C37⟩, ⟨nat_lit 0x1CD0, nat_lit 0x1CD2⟩,
     ⟨nat_lit 0x1CD4, nat_lit 0x1CE0⟩, ⟨nat_lit 0x1CE2, nat_lit 0x1CE8⟩,
     ⟨nat_lit 0x1CED, nat_lit 0x1CED⟩, ⟨nat_lit 0x1CF4, nat_lit 0x1CF4⟩,
     ⟨nat_lit 0x1CF8, nat_lit 0x1CF9⟩, ⟨nat_lit 0x1DC0, nat_lit 0x1DFF⟩,
     ⟨nat_lit 0x20D0, nat_lit 0x20DC⟩, ⟨nat_lit 0x20E1, nat_lit 0x20E1⟩,
     ⟨nat_lit 0x20E5, nat_lit 0x20F0⟩, ⟨nat_lit 0x2CEF, nat_lit 0x2CF1⟩,
     ⟨nat_lit 0x2D7F, nat_lit 0x2D7F⟩, ⟨nat_lit 0x2DE0, nat_lit 0x2DFF⟩,
     ⟨nat_lit 0x302A, nat_lit 0x302D⟩, ⟨nat_lit 0x3099, nat_lit 0x309A⟩,
     ⟨nat_lit 0xA66F, nat_lit 0xA66F⟩, ⟨nat_lit 0xA674, nat_lit 0xA67D⟩,
     ⟨nat_lit 0xA69E, nat_lit 0xA69F⟩, ⟨nat_lit 0xA6F0, nat_lit 0xA6F1⟩,
     ⟨nat_lit 0xA802, nat_lit 0xA802⟩, ⟨nat_lit 0xA806, nat_lit 0xA806⟩,
     ⟨nat_lit 0xA80B, nat_lit 0xA80B⟩, ⟨nat_lit 0xA825, nat_lit 0xA826⟩,
     ⟨nat_lit 0xA82C, nat_lit 0xA82C⟩, ⟨nat_lit 0xA8C4, nat_lit 0xA8C5⟩,
     ⟨nat_lit 0xA8E0, nat_lit 0xA8F1⟩, ⟨nat_lit 0xA8FF, nat_lit 0xA8FF⟩,
     ⟨nat_lit 0xA926, nat_lit 0xA92D⟩, ⟨nat_lit 0xA947, nat_lit 0xA951⟩,
     ⟨nat_lit 0xA980, nat_lit 0xA982⟩, ⟨nat_lit 0xA9B3, nat_lit 0xA9B3⟩,
     ⟨nat_lit 0xA9B6, nat_lit 0xA9B9⟩, ⟨nat_lit 0xA9BC, nat_lit 0xA9BD⟩,
     ⟨nat_lit 0xA9E5, nat_lit 0xA9E5⟩, ⟨nat_lit 0xAA29, nat_lit 0xAA2E⟩,
     ⟨nat_lit 0xAA31, nat_lit 0xAA32⟩, ⟨nat_lit 0xAA35, nat_lit 0xAA36⟩,
     ⟨nat_lit 0xAA43, nat_lit 0xAA43⟩, ⟨nat_lit 0xAA4C, nat_lit 0xAA4C⟩,
     ⟨nat_lit 0xAA7C, nat_lit 0xAA7C⟩, ⟨nat_lit 0xAAB0, nat_lit 0xAAB0⟩,
     ⟨nat_lit 0xAAB2, nat_lit 0xAAB4⟩, ⟨nat_lit 0xAAB7, nat_lit 0xAAB8⟩,
     ⟨nat_lit 0xAABE, nat_lit 0xAABF⟩, ⟨nat_lit 0xAAC1, nat_lit 0xAAC1⟩,
     ⟨nat_lit 0xAAEC, nat_lit 0xAAED⟩, ⟨nat_lit 0xAAF6, nat_lit 0xAAF6⟩,
     ⟨nat_lit 0xABE5, nat_lit 0xABE5⟩, ⟨nat_lit 0xABE8, nat_lit 0xABE8⟩,
     ⟨nat_lit 0xABED, nat_lit 0xABED⟩, ⟨nat_lit 0xFB1E, nat_lit 0xFB1E⟩,
     ⟨nat_lit 0xFE00, nat_lit 0xFE0F⟩, ⟨nat_lit 0xFE20, nat_lit 0xFE2F⟩,
     ⟨nat_lit 0x101FD, nat_lit 0x101FD⟩, ⟨nat_lit 0x102E0, nat_lit 0x102E0⟩,
     ⟨nat_lit 0x10376, nat_lit 0x1037A⟩, ⟨nat_lit 0x10A01, nat_lit 0x10A03⟩,
     ⟨nat_lit 0x10A05, nat_lit 0x10A06⟩, ⟨nat_lit 0x10A0C, nat_lit 0x10A0F⟩,
     ⟨nat_lit 0x10A38, nat_lit 0x10A3A⟩, ⟨nat_lit 0x10A3F, nat_lit 0x10A3F⟩,
     ⟨nat_lit 0x10AE5, nat_lit 0x10AE6⟩, ⟨nat_lit 0x10D24, nat_lit 0x10D27⟩,
     ⟨nat_lit 0x10D69, nat_lit 0x10D6D⟩, ⟨nat_lit 0x10EAB, nat_lit 0x10EAC⟩,
     ⟨nat_lit 0x10EFC, nat_lit 0x10EFF⟩, ⟨nat_lit 0x10F46, nat_lit 0x10F50⟩,
     ⟨nat_lit 0x10F82, nat_lit 0x10F85⟩, ⟨nat_lit 0x11001, nat_lit 0x11001⟩,
     ⟨nat_lit 0x11038, nat_lit 0x11046⟩, ⟨nat_lit 0x11070, nat_lit 0x11070⟩,
     ⟨nat_lit 0x11073, nat_lit 0x11074⟩, ⟨nat_lit 0x1107F, nat_lit 0x11081⟩,
     ⟨nat_lit 0x110B3, nat_lit 0x110B6⟩, ⟨nat_lit 0x110B9, nat_lit 0x110BA⟩,
     ⟨nat_lit 0x110C2, nat_lit 0x110C2⟩, ⟨nat_lit 0x11100, nat_lit 0x11102⟩,
     ⟨nat_lit 0x11127, nat_lit 0x1112B⟩, ⟨nat_lit 0x1112D, nat_lit 0x11134⟩,
     ⟨nat_lit 0x11173, nat_lit 0x11173⟩, ⟨nat_lit 0x11180, nat_lit 0x11181⟩,
     ⟨nat_lit 0x111B6, nat_lit 0x111BE⟩, ⟨nat_lit 0x111C9, nat_lit 0x111CC⟩,
     ⟨nat_lit 0x111CF, nat_lit 0x111CF⟩, ⟨nat_lit 0x1122F, nat_lit 0x11231⟩,
     ⟨nat_lit 0x11234, nat_lit 0x11234⟩, ⟨nat_lit 0x11236, nat_lit 0x11237⟩,
     ⟨nat_lit 0x1123E, nat_lit 0x1123E⟩, ⟨nat_lit 0x11241, nat_lit 0x11241⟩,
     ⟨nat_lit 0x112DF, nat_lit 0x112DF⟩, ⟨nat_lit 0x112E3, nat_lit 0x112EA⟩,
     ⟨nat_lit 0x11300, nat_lit 0x11301⟩, ⟨nat_lit 0x1133B, nat_lit 0x1133C⟩,
     ⟨nat_lit 0x11340, nat_lit 0x11340⟩, ⟨nat_lit 0x11366, nat_lit 0x1136C⟩,
     ⟨nat_lit 0x11370, nat_lit 0x11374⟩, ⟨nat_lit 0x113BB, nat_lit 0x113C0⟩,
     ⟨nat_lit 0x113CE, nat_lit 0x113CE⟩, ⟨nat_lit 0x113D0, nat_lit 0x113D0⟩,
     ⟨nat_lit 0x113D2, nat_lit 0x113D2⟩, ⟨nat_lit 0x113E1, nat_lit 0x113E2⟩,
     ⟨nat_lit 0x11438, nat_lit 0x1143F⟩, ⟨nat_lit 0x11442, nat_lit 0x11444⟩,
     ⟨nat_lit 0x11446, nat_lit 0x11446⟩, ⟨nat_lit 0x1145E, nat_lit 0x1145E⟩,
     ⟨nat_lit 0x114B3, nat_lit 0x114B8⟩, ⟨nat_lit 0x114BA, nat_lit 0x114BA⟩,
     ⟨nat_lit 0x114BF, nat_lit 0x114C0⟩, ⟨nat_lit 0x114C2, nat_lit 0x114C3⟩,
     ⟨nat_lit 0x115B2, nat_lit 0x115B5⟩, ⟨nat_lit 0x115BC, nat_lit 0x115BD⟩,
     ⟨nat_lit 0x115BF, nat_lit 0x115C0⟩, ⟨nat_lit 0x115DC, nat_lit 0x115DD⟩,
     ⟨nat_lit 0x11633, nat_lit 0x1163A⟩, ⟨nat_lit 0x1163D, nat_lit 0x1163D⟩,
     ⟨nat_lit 0x1163F, nat_lit 0x11640⟩, ⟨nat_lit 0x116AB, nat_lit 0x116AB⟩,
     ⟨nat_lit 0x116AD, nat_lit 0x116AD⟩, ⟨nat_lit 0x116B0, nat_lit 0x116B5⟩,
     ⟨nat_lit 0x116B7, nat_lit 0x116B7⟩, ⟨nat_lit 0x1171D, nat_lit 0x1171D⟩,
     ⟨nat_lit 0x1171F, nat_lit 0x1171F⟩, ⟨nat_lit 0x11722, nat_lit 0x11725⟩,
     ⟨nat_lit 0x11727, nat_lit 0x1172B⟩, ⟨nat_lit 0x1182F, nat_lit 0x11837⟩,
     ⟨nat_lit 0x11839, nat_lit 0x1183A⟩, ⟨nat_lit 0x1193B, nat_lit 0x1193C⟩,
     ⟨nat_lit 0x1193E, nat_lit 0x1193E⟩, ⟨nat_lit 0x11943, nat_lit 0x11943⟩,
     ⟨nat_lit 0x119D4, nat_lit 0x119D7⟩, ⟨nat_lit 0x119DA, nat_lit 0x119DB⟩,
     ⟨nat_lit 0x119E0, nat_lit 0x119E0⟩, ⟨nat_lit 0x11A01, nat_lit 0x11A0A⟩,
     ⟨nat_lit 0x11A33, nat_lit 0x11A38⟩, ⟨nat_lit 0x11A3B, nat_lit 0x11A3E⟩,
     ⟨nat_lit 0x11A47, nat_lit 0x11A47⟩, ⟨nat_lit 0x11A51, nat_lit 0x11A56⟩,
     ⟨nat_lit 0x11A59, nat_lit 0x11A5B⟩, ⟨nat_lit 0x11A8A, nat_lit 0x11A96⟩,
     ⟨nat_lit 0x11A98, nat_lit 0x11A99⟩, ⟨nat_lit 0x11C30, nat_lit 0x11C36⟩,
     ⟨nat_lit 0x11C38, nat_lit 0x11C3D⟩, ⟨nat_lit 0x11C3F, nat_lit 0x11C3F⟩,
     ⟨nat_lit 0x11C92, nat_lit 0x11CA7⟩, ⟨nat_lit 0x11CAA, nat_lit 0x11CB0⟩,
     ⟨nat_lit 0x11CB2, nat_lit 0x11CB3⟩, ⟨nat_lit 0x11CB5, nat_lit 0x11CB6⟩,
     ⟨nat_lit 0x11D31, nat_lit 0x11D36⟩, ⟨nat_lit 0x11D3A, nat_lit 0x11D3A⟩,
     ⟨nat_lit 0x11D3C, nat_lit 0x11D3D⟩, ⟨nat_lit 0x11D3F, nat_lit 0x11D45⟩,
     ⟨nat_lit 0x11D47, nat_lit 0x11D47⟩, ⟨nat_lit 0x11D90, nat_lit 0x11D91⟩,
     ⟨nat_lit 0x11D95, nat_lit 0x11D95⟩, ⟨nat_lit 0x11D97, nat_lit 0x11D97⟩,
     ⟨nat_lit 0x11EF3, nat_lit 0x11EF4⟩, ⟨nat_lit 0x11F00, nat_lit 0x11F01⟩,
     ⟨nat_lit 0x11F36, nat_lit 0x11F3A⟩, ⟨nat_lit 0x11F40, nat_lit 0x11F40⟩,
     ⟨nat_lit 0x11F42, nat_lit 0x11F42⟩, ⟨nat_lit 0x11F5A, nat_lit 0x11F5A⟩,
     ⟨nat_lit 0x13440, nat_lit 0x13440⟩, ⟨nat_lit 0x13447, nat_lit 0x13455⟩,
     ⟨nat_lit 0x1611E, nat_lit 0x16129⟩, ⟨nat_lit 0x1612D, nat_lit 0x1612F⟩,
     ⟨nat_lit 0x16AF0, nat_lit 0x16AF4⟩, ⟨nat_lit 0x16B30, nat_lit 0x16B36⟩,
     ⟨nat_lit 0x16F4F, nat_lit 0x16F4F⟩, ⟨nat_lit 0x16F8F, nat_lit 0x16F92⟩,
     ⟨nat_lit 0x16FE4, nat_lit 0x16FE4⟩, ⟨nat_lit 0x1BC9D, nat_lit 0x1BC9E⟩,
     ⟨nat_lit 0x1CF00, nat_lit 0x1CF2D⟩, ⟨nat_lit 0x1CF30, nat_lit 0x1CF46⟩,
     ⟨nat_lit 0x1D167, nat_lit 0x1D169⟩, ⟨nat_lit 0x1D17B, nat_lit 0x1D182⟩,
     ⟨nat_lit 0x1D185, nat_lit 0x1D18B⟩, ⟨nat_lit 0x1D1AA, nat_lit 0x1D1AD⟩,
     ⟨nat_lit 0x1D242, nat_lit 0x1D244⟩, ⟨nat_lit 0x1DA00, nat_lit 0x1DA36⟩,
     ⟨nat_lit 0x1DA3B, nat_lit 0x1DA6C⟩, ⟨nat_lit 0x1DA75, nat_lit 0x1DA75⟩,
     ⟨nat_lit 0x1DA84, nat_lit 0x1DA84⟩, ⟨nat_lit 0x1DA9B, nat_lit 0x1DA9F⟩,
     ⟨nat_lit 0x1DAA1, nat_lit 0x1DAAF⟩, ⟨nat_lit 0x1E000, nat_lit 0x1E006⟩,
     ⟨nat_lit 0x1E008, nat_lit 0x1E018⟩, ⟨nat_lit 0x1E01B, nat_lit 0x1E021⟩,
     ⟨nat_lit 0x1E023, nat_lit 0x1E024⟩, ⟨nat_lit 0x1E026, nat_lit 0x1E02A⟩,
     ⟨nat_lit 0x1E08F, nat_lit 0x1E08F⟩, ⟨nat_lit 0x1E130, nat_lit 0x1E136⟩,
     ⟨nat_lit 0x1E2AE, nat_lit 0x1E2AE⟩, ⟨nat_lit 0x1E2EC, nat_lit 0x1E2EF⟩,
     ⟨nat_lit 0x1E4EC, nat_lit 0x1E4EF⟩, ⟨nat_lit 0x1E5EE, nat_lit 0x1E5EF⟩,
     ⟨nat_lit 0x1E8D0, nat_lit 0x1E8D6⟩, ⟨nat_lit 0x1E944, nat_lit 0x1E94A⟩,
     ⟨nat_lit 0xE0100, nat_lit 0xE01EF⟩]
  | spacingMark =>
    [⟨nat_lit 0x903, nat_lit 0x903⟩, ⟨nat_lit 0x93B, nat_lit 0x93B⟩,
     ⟨nat_lit 0x93E, nat_lit 0x940⟩, ⟨nat_lit 0x949, nat_lit 0x94C⟩,
     ⟨nat_lit 0x94E, nat_lit 0x94F⟩, ⟨nat_lit 0x982, nat_lit 0x983⟩,
     ⟨nat_lit 0x9BE, nat_lit 0x9C0⟩, ⟨nat_lit 0x9C7, nat_lit 0x9C8⟩,
     ⟨nat_lit 0x9CB, nat_lit 0x9CC⟩, ⟨nat_lit 0x9D7, nat_lit 0x9D7⟩,
     ⟨nat_lit 0xA03, nat_lit 0xA03⟩, ⟨nat_lit 0xA3E, nat_lit 0xA40⟩,
     ⟨nat_lit 0xA83, nat_lit 0xA83⟩, ⟨nat_lit 0xABE, nat_lit 0xAC0⟩,
     ⟨nat_lit 0xAC9, nat_lit 0xAC9⟩, ⟨nat_lit 0xACB, nat_lit 0xACC⟩,
     ⟨nat_lit 0xB02, nat_lit 0xB03⟩, ⟨nat_lit 0xB3E, nat_lit 0xB3E⟩,
     ⟨nat_lit 0xB40, nat_lit 0xB40⟩, ⟨nat_lit 0xB47, nat_lit 0xB48⟩,
     ⟨nat_lit 0xB4B, nat_lit 0xB4C⟩, ⟨nat_lit 0xB57, nat_lit 0xB57⟩,
     ⟨nat_lit 0xBBE, nat_lit 0xBBF⟩, ⟨nat_lit 0xBC1, nat_lit 0xBC2⟩,
     ⟨nat_lit 0xBC6, nat_lit 0xBC8⟩, ⟨nat_lit 0xBCA, nat_lit 0xBCC⟩,
     ⟨nat_lit 0xBD7, nat_lit 0xBD7⟩, ⟨nat_lit 0xC01, nat_lit 0xC03⟩,
     ⟨nat_lit 0xC41, nat_lit 0xC44⟩, ⟨nat_lit 0xC82, nat_lit 0xC83⟩,
     ⟨nat_lit 0xCBE, nat_lit 0xCBE⟩, ⟨nat_lit 0xCC0, nat_lit 0xCC4⟩,
     ⟨nat_lit 0xCC7, nat_lit 0xCC8⟩, ⟨nat_lit 0xCCA, nat_lit 0xCCB⟩,
     ⟨nat_lit 0xCD5, nat_lit 0xCD6⟩, ⟨nat_lit 0xCF3, nat_lit 0xCF3⟩,
     ⟨nat_lit 0xD02, nat_lit 0xD03⟩, ⟨nat_lit 0xD3E, nat_lit 0xD40⟩,
     ⟨nat_lit 0xD46, nat_lit 0xD48⟩, ⟨nat_lit 0xD4A, nat_lit 0xD4C⟩,
     ⟨nat_lit 0xD57, nat_lit 0xD57⟩, ⟨nat_lit 0xD82, nat_lit 0xD83⟩,
     ⟨nat_lit 0xDCF, nat_lit 0xDD1⟩, ⟨nat_lit 0xDD8, nat_lit 0xDDF⟩,
     ⟨nat_lit 0xDF2, nat_lit 0xDF3⟩, ⟨nat_lit 0xF3E, nat_lit 0xF3F⟩,
     ⟨nat_lit 0xF7F, nat_lit 0xF7F⟩, ⟨nat_lit 0x102B, nat_lit 0x102C⟩,
     ⟨nat_lit 0x1031, nat_lit 0x1031⟩, ⟨nat_lit 0x1038, nat_lit 0x1038⟩,
     ⟨nat_lit 0x103B, nat_lit 0x103C⟩, ⟨nat_lit 0x1056, nat_lit 0x1057⟩,
     ⟨nat_lit 0x1062, nat_lit 0x1064⟩, ⟨nat_lit 0x1067, nat_lit 0x106D⟩,
     ⟨nat_lit 0x1083, nat_lit 0x1084⟩, ⟨nat_lit 0x1087, nat_lit 0x108C⟩,
     ⟨nat_lit 0x108F, nat_lit 0x108F⟩, ⟨nat_lit 0x109A, nat_lit 0x109C⟩,
     ⟨nat_lit 0x1715, nat_lit 0x1715⟩, ⟨nat_lit 0x1734, nat_lit 0x1734⟩,
     ⟨nat_lit 0x17B6, nat_lit 0x17B6⟩, ⟨nat_lit 0x17BE, nat_lit 0x17C5⟩,
     ⟨nat_lit 0x17C7, nat_lit 0x17C8⟩, ⟨nat_lit 0x1923, nat_lit 0x1926⟩,
     ⟨nat_lit 0x1929, nat_lit 0x192B⟩, ⟨nat_lit 0x1930, nat_lit 0x1931⟩,
     ⟨nat_lit 0x1933, nat_lit 0x1938⟩, ⟨nat_lit 0x1A19, nat_lit 0x1A1A⟩,
     ⟨nat_lit 0x1A55, nat_lit 0x1A55⟩, ⟨nat_lit 0x1A57, nat_lit 0x1A57⟩,
     ⟨nat_lit 0x1A61, nat_lit 0x1A61⟩, ⟨nat_lit 0x1A63, nat_lit 0x1A64⟩,
     ⟨nat_lit 0x1A6D, nat_lit 0x1A72⟩, ⟨nat_lit 0x1B04, nat_lit 0x1B04⟩,
     ⟨nat_lit 0x1B35, nat_lit 0x1B35⟩, ⟨nat_lit 0x1B3B, nat_lit 0x1B3B⟩,
     ⟨nat_lit 0x1B3D, nat_lit 0x1B41⟩, ⟨nat_lit 0x1B43, nat_lit 0x1B44⟩,
     ⟨nat_lit 0x1B82, nat_lit 0x1B82⟩, ⟨nat_lit 0x1BA1, nat_lit 0x1BA1⟩,
     ⟨nat_lit 0x1BA6, nat_lit 0x1BA7⟩, ⟨nat_lit 0x1BAA, nat_lit 0x1BAA⟩,
     ⟨nat_lit 0x1BE7, nat_lit 0x1BE7⟩, ⟨nat_lit 0x1BEA, nat_lit 0x1BEC⟩,
     ⟨nat_lit 0x1BEE, nat_lit 0x1BEE⟩, ⟨nat_lit 0x1BF2, nat_lit 0x1BF3⟩,
     ⟨nat_lit 0x1C24, nat_lit 0x1C2B⟩, ⟨nat_lit 0x1C34, nat_lit 0x1C35⟩,
     ⟨nat_lit 0x1CE1, nat_lit 0x1CE1⟩, ⟨nat_lit 0x1CF7, nat_lit 0x1CF7⟩,
     ⟨nat_lit 0x302E, nat_lit 0x302F⟩, ⟨nat_lit 0xA823, nat_lit 0xA824⟩,
     ⟨nat_lit 0xA827, nat_lit 0xA827⟩, ⟨nat_lit 0xA880, nat_lit 0xA881⟩,
     ⟨nat_lit 0xA8B4, nat_lit 0xA8C3⟩, ⟨nat_lit 0xA952, nat_lit 0xA953⟩,
     ⟨nat_lit 0xA983, nat_lit 0xA983⟩, ⟨nat_lit 0xA9B4, nat_lit 0xA9B5⟩,
     ⟨nat_lit 0xA9BA, nat_lit 0xA9BB⟩, ⟨nat_lit 0xA9BE, nat_lit 0xA9C0⟩,
     ⟨nat_lit 0xAA2F, nat_lit 0xAA30⟩, ⟨nat_lit 0xAA33, nat_lit 0xAA34⟩,
     ⟨nat_lit 0xAA4D, nat_lit 0xAA4D⟩, ⟨nat_lit 0xAA7B, nat_lit 0xAA7B⟩,
     ⟨nat_lit 0xAA7D, nat_lit 0xAA7D⟩, ⟨nat_lit 0xAAEB, nat_lit 0xAAEB⟩,
     ⟨nat_lit 0xAAEE, nat_lit 0xAAEF⟩, ⟨nat_lit 0xAAF5, nat_lit 0xAAF5⟩,
     ⟨nat_lit 0xABE3, nat_lit 0xABE4⟩, ⟨nat_lit 0xABE6, nat_lit 0xABE7⟩,
     ⟨nat_lit 0xABE9, nat_lit 0xABEA⟩, ⟨nat_lit 0xABEC, nat_lit 0xABEC⟩,
     ⟨nat_lit 0x11000, nat_lit 0x11000⟩, ⟨nat_lit 0x11002, nat_lit 0x11002⟩,
     ⟨nat_lit 0x11082, nat_lit 0x11082⟩, ⟨nat_lit 0x110B0, nat_lit 0x110B2⟩,
     ⟨nat_lit 0x110B7, nat_lit 0x110B8⟩, ⟨nat_lit 0x1112C, nat_lit 0x1112C⟩,
     ⟨nat_lit 0x11145, nat_lit 0x11146⟩, ⟨nat_lit 0x11182, nat_lit 0x11182⟩,
     ⟨nat_lit 0x111B3, nat_lit 0x111B5⟩, ⟨nat_lit 0x111BF, nat_lit 0x111C0⟩,
     ⟨nat_lit 0x111CE, nat_lit 0x111CE⟩, ⟨nat_lit 0x1122C, nat_lit 0x1122E⟩,
     ⟨nat_lit 0x11232, nat_lit 0x11233⟩, ⟨nat_lit 0x11235, nat_lit 0x11235⟩,
     ⟨nat_lit 0x112E0, nat_lit 0x112E2⟩, ⟨nat_lit 0x11302, nat_lit 0x11303⟩,
     ⟨nat_lit 0x1133E, nat_lit 0x1133F⟩, ⟨nat_lit 0x11341, nat_lit 0x11344⟩,
     ⟨nat_lit 0x11347, nat_lit 0x11348⟩, ⟨nat_lit 0x1134B, nat_lit 0x1134D⟩,
     ⟨nat_lit 0x11357, nat_lit 0x11357⟩, ⟨nat_lit 0x11362, nat_lit 0x11363⟩,
     ⟨nat_lit 0x113B8, nat_lit 0x113BA⟩, ⟨nat_lit 0x113C2, nat_lit 0x113C2⟩,
     ⟨nat_lit 0x113C5, nat_lit 0x113C5⟩, ⟨nat_lit 0x113C7, nat_lit 0x113CA⟩,
     ⟨nat_lit 0x113CC, nat_lit 0x113CD⟩, ⟨nat_lit 0x113CF, nat_lit 0x113CF⟩,
     ⟨nat_lit 0x11435, nat_lit 0x11437⟩, ⟨nat_lit 0x11440, nat_lit 0x11441⟩,
     ⟨nat_lit 0x11445, nat_lit 0x11445⟩, ⟨nat_lit 0x114B0, nat_lit 0x114B2⟩,
     ⟨nat_lit 0x114B9, nat_lit 0x114B9⟩, ⟨nat_lit 0x114BB, nat_lit 0x114BE⟩,
     ⟨nat_lit 0x114C1, nat_lit 0x114C1⟩, ⟨nat_lit 0x115AF, nat_lit 0x115B1⟩,
     ⟨nat_lit 0x115B8, nat_lit 0x115BB⟩, ⟨nat_lit 0x115BE, nat_lit 0x115BE⟩,
     ⟨nat_lit 0x11630, nat_lit 0x11632⟩, ⟨nat_lit 0x1163B, nat_lit 0x1163C⟩,
     ⟨nat_lit 0x1163E, nat_lit 0x1163E⟩, ⟨nat_lit 0x116AC, nat_lit 0x116AC⟩,
     ⟨nat_lit 0x116AE, nat_lit 0x116AF⟩, ⟨nat_lit 0x116B6, nat_lit 0x116B6⟩,
     ⟨nat_lit 0x1171E, nat_lit 0x1171E⟩, ⟨nat_lit 0x11720, nat_lit 0x11721⟩,
     ⟨nat_lit 0x11726, nat_lit 0x11726⟩, ⟨nat_lit 0x1182C, nat_lit 0x1182E⟩,
     ⟨nat_lit 0x11838, nat_lit 0x11838⟩, ⟨nat_lit 0x11930, nat_lit 0x11935⟩,
     ⟨nat_lit 0x11937, nat_lit 0x11938⟩, ⟨nat_lit 0x1193D, nat_lit 0x1193D⟩,
     ⟨nat_lit 0x11940, nat_lit 0x11940⟩, ⟨nat_lit 0x11942, nat_lit 0x11942⟩,
     ⟨nat_lit 0x119D1, nat_lit 0x119D3⟩, ⟨nat_lit 0x119DC, nat_lit 0x119DF⟩,
     ⟨nat_lit 0x119E4, nat_lit 0x119E4⟩, ⟨nat_lit 0x11A39, nat_lit 0x11A39⟩,
     ⟨nat_lit 0x11A57, nat_lit 0x11A58⟩, ⟨nat_lit 0x11A97, nat_lit 0x11A97⟩,
     ⟨nat_lit 0x11C2F, nat_lit 0x11C2F⟩, ⟨nat_lit 0x11C3E, nat_lit 0x11C3E⟩,
     ⟨nat_lit 0x11CA9, nat_lit 0x11CA9⟩, ⟨nat_lit 0x11CB1, nat_lit 0x11CB1⟩,
     ⟨nat_lit 0x11CB4, nat_lit 0x11CB4⟩, ⟨nat_lit 0x11D8A, nat_lit 0x11D8E⟩,
     ⟨nat_lit 0x11D93, nat_lit 0x11D94⟩, ⟨nat_lit 0x11D96, nat_lit 0x11D96⟩,
     ⟨nat_lit 0x11EF5, nat_lit 0x11EF6⟩, ⟨nat_lit 0x11F03, nat_lit 0x11F03⟩,
     ⟨nat_lit 0x11F34, nat_lit 0x11F35⟩, ⟨nat_lit 0x11F3E, nat_lit 0x11F3F⟩,
     ⟨nat_lit 0x11F41, nat_lit 0x11F41⟩, ⟨nat_lit 0x1612A, nat_lit 0x1612C⟩,
     ⟨nat_lit 0x16F51, nat_lit 0x16F87⟩, ⟨nat_lit 0x16FF0, nat_lit 0x16FF1⟩,
     ⟨nat_lit 0x1D165, nat_lit 0x1D166⟩, ⟨nat_lit 0x1D16D, nat_lit 0x1D172⟩]
  | enclosingMark =>
    [⟨nat_lit 0x488, nat_lit 0x489⟩, ⟨nat_lit 0x1ABE, nat_lit 0x1ABE⟩,
     ⟨nat_lit 0x20DD, nat_lit 0x20E0⟩, ⟨nat_lit 0x20E2, nat_lit 0x20E4⟩,
     ⟨nat_lit 0xA670, nat_lit 0xA672⟩]
  | decimalNumber =>
    [⟨nat_lit 0x30, nat_lit 0x39⟩, ⟨nat_lit 0x660, nat_lit 0x669⟩, ⟨nat_lit 0x6F0, nat_lit 0x6F9⟩,
     ⟨nat_lit 0x7C0, nat_lit 0x7C9⟩, ⟨nat_lit 0x966, nat_lit 0x96F⟩,
     ⟨nat_lit 0x9E6, nat_lit 0x9EF⟩, ⟨nat_lit 0xA66, nat_lit 0xA6F⟩,
     ⟨nat_lit 0xAE6, nat_lit 0xAEF⟩, ⟨nat_lit 0xB66, nat_lit 0xB6F⟩,
     ⟨nat_lit 0xBE6, nat_lit 0xBEF⟩, ⟨nat_lit 0xC66, nat_lit 0xC6F⟩,
     ⟨nat_lit 0xCE6, nat_lit 0xCEF⟩, ⟨nat_lit 0xD66, nat_lit 0xD6F⟩,
     ⟨nat_lit 0xDE6, nat_lit 0xDEF⟩, ⟨nat_lit 0xE50, nat_lit 0xE59⟩,
     ⟨nat_lit 0xED0, nat_lit 0xED9⟩, ⟨nat_lit 0xF20, nat_lit 0xF29⟩,
     ⟨nat_lit 0x1040, nat_lit 0x1049⟩, ⟨nat_lit 0x1090, nat_lit 0x1099⟩,
     ⟨nat_lit 0x17E0, nat_lit 0x17E9⟩, ⟨nat_lit 0x1810, nat_lit 0x1819⟩,
     ⟨nat_lit 0x1946, nat_lit 0x194F⟩, ⟨nat_lit 0x19D0, nat_lit 0x19D9⟩,
     ⟨nat_lit 0x1A80, nat_lit 0x1A89⟩, ⟨nat_lit 0x1A90, nat_lit 0x1A99⟩,
     ⟨nat_lit 0x1B50, nat_lit 0x1B59⟩, ⟨nat_lit 0x1BB0, nat_lit 0x1BB9⟩,
     ⟨nat_lit 0x1C40, nat_lit 0x1C49⟩, ⟨nat_lit 0x1C50, nat_lit 0x1C59⟩,
     ⟨nat_lit 0xA620, nat_lit 0xA629⟩, ⟨nat_lit 0xA8D0, nat_lit 0xA8D9⟩,
     ⟨nat_lit 0xA900, nat_lit 0xA909⟩, ⟨nat_lit 0xA9D0, nat_lit 0xA9D9⟩,
     ⟨nat_lit 0xA9F0, nat_lit 0xA9F9⟩, ⟨nat_lit 0xAA50, nat_lit 0xAA59⟩,
     ⟨nat_lit 0xABF0, nat_lit 0xABF9⟩, ⟨nat_lit 0xFF10, nat_lit 0xFF19⟩,
     ⟨nat_lit 0x104A0, nat_lit 0x104A9⟩, ⟨nat_lit 0x10D30, nat_lit 0x10D39⟩,
     ⟨nat_lit 0x10D40, nat_lit 0x10D49⟩, ⟨nat_lit 0x11066, nat_lit 0x1106F⟩,
     ⟨nat_lit 0x110F0, nat_lit 0x110F9⟩, ⟨nat_lit 0x11136, nat_lit 0x1113F⟩,
     ⟨nat_lit 0x111D0, nat_lit 0x111D9⟩, ⟨nat_lit 0x112F0, nat_lit 0x112F9⟩,
     ⟨nat_lit 0x11450, nat_lit 0x11459⟩, ⟨nat_lit 0x114D0, nat_lit 0x114D9⟩,
     ⟨nat_lit 0x11650, nat_lit 0x11659⟩, ⟨nat_lit 0x116C0, nat_lit 0x116C9⟩,
     ⟨nat_lit 0x116D0, nat_lit 0x116E3⟩, ⟨nat_lit 0x11730, nat_lit 0x11739⟩,
     ⟨nat_lit 0x118E0, nat_lit 0x118E9⟩, ⟨nat_lit 0x11950, nat_lit 0x11959⟩,
     ⟨nat_lit 0x11BF0, nat_lit 0x11BF9⟩, ⟨nat_lit 0x11C50, nat_lit 0x11C59⟩,
     ⟨nat_lit 0x11D50, nat_lit 0x11D59⟩, ⟨nat_lit 0x11DA0, nat_lit 0x11DA9⟩,
     ⟨nat_lit 0x11F50, nat_lit 0x11F59⟩, ⟨nat_lit 0x16130, nat_lit 0x16139⟩,
     ⟨nat_lit 0x16A60, nat_lit 0x16A69⟩, ⟨nat_lit 0x16AC0, nat_lit 0x16AC9⟩,
     ⟨nat_lit 0x16B50, nat_lit 0x16B59⟩, ⟨nat_lit 0x16D70, nat_lit 0x16D79⟩,
     ⟨nat_lit 0x1CCF0, nat_lit 0x1CCF9⟩, ⟨nat_lit 0x1D7CE, nat_lit 0x1D7FF⟩,
     ⟨nat_lit 0x1E140, nat_lit 0x1E149⟩, ⟨nat_lit 0x1E2F0, nat_lit 0x1E2F9⟩,
     ⟨nat_lit 0x1E4F0, nat_lit 0x1E4F9⟩, ⟨nat_lit 0x1E5F1, nat_lit 0x1E5FA⟩,
     ⟨nat_lit 0x1E950, nat_lit 0x1E959⟩, ⟨nat_lit 0x1FBF0, nat_lit 0x1FBF9⟩]
  | letterNumber =>
    [⟨nat_lit 0x16EE, nat_lit 0x16F0⟩, ⟨nat_lit 0x2160, nat_lit 0x2182⟩,
     ⟨nat_lit 0x2185, nat_lit 0x2188⟩, ⟨nat_lit 0x3007, nat_lit 0x3007⟩,
     ⟨nat_lit 0x3021, nat_lit 0x3029⟩, ⟨nat_lit 0x3038, nat_lit 0x303A⟩,
     ⟨nat_lit 0xA6E6, nat_lit 0xA6EF⟩, ⟨nat_lit 0x10140, nat_lit 0x10174⟩,
     ⟨nat_lit 0x10341, nat_lit 0x10341⟩, ⟨nat_lit 0x1034A, nat_lit 0x1034A⟩,
     ⟨nat_lit 0x103D1, nat_lit 0x103D5⟩, ⟨nat_lit 0x12400, nat_lit 0x1246E⟩]
  | otherNumber =>
    [⟨nat_lit 0xB2, nat_lit 0xB3⟩, ⟨nat_lit 0xB9, nat_lit 0xB9⟩, ⟨nat_lit 0xBC, nat_lit 0xBE⟩,
     ⟨nat_lit 0x9F4, nat_lit 0x9F9⟩, ⟨nat_lit 0xB72, nat_lit 0xB77⟩,
     ⟨nat_lit 0xBF0, nat_lit 0xBF2⟩, ⟨nat_lit 0xC78, nat_lit 0xC7E⟩,
     ⟨nat_lit 0xD58, nat_lit 0xD5E⟩, ⟨nat_lit 0xD70, nat_lit 0xD78⟩,
     ⟨nat_lit 0xF2A, nat_lit 0xF33⟩, ⟨nat_lit 0x1369, nat_lit 0x137C⟩,
     ⟨nat_lit 0x17F0, nat_lit 0x17F9⟩, ⟨nat_lit 0x19DA, nat_lit 0x19DA⟩,
     ⟨nat_lit 0x2070, nat_lit 0x2070⟩, ⟨nat_lit 0x2074, nat_lit 0x2079⟩,
     ⟨nat_lit 0x2080, nat_lit 0x2089⟩, ⟨nat_lit 0x2150, nat_lit 0x215F⟩,
     ⟨nat_lit 0x2189, nat_lit 0x2189⟩, ⟨nat_lit 0x2460, nat_lit 0x249B⟩,
     ⟨nat_lit 0x24EA, nat_lit 0x24FF⟩, ⟨nat_lit 0x2776, nat_lit 0x2793⟩,
     ⟨nat_lit 0x2CFD, nat_lit 0x2CFD⟩, ⟨nat_lit 0x3192, nat_lit 0x3195⟩,
     ⟨nat_lit 0x3220, nat_lit 0x3229⟩, ⟨nat_lit 0x3248, nat_lit 0x324F⟩,
     ⟨nat_lit 0x3251, nat_lit 0x325F⟩, ⟨nat_lit 0x3280, nat_lit 0x3289⟩,
     ⟨nat_lit 0x32B1, nat_lit 0x32BF⟩, ⟨nat_lit 0xA830, nat_lit 0xA835⟩,
     ⟨nat_lit 0x10107, nat_lit 0x10133⟩, ⟨nat_lit 0x10175, nat_lit 0x10178⟩,
     ⟨nat_lit 0x1018A, nat_lit 0x1018B⟩, ⟨nat_lit 0x102E1, nat_lit 0x102FB⟩,
     ⟨nat_lit 0x10320, nat_lit 0x10323⟩, ⟨nat_lit 0x10858, nat_lit 0x1085F⟩,
     ⟨nat_lit 0x10879, nat_lit 0x1087F⟩, ⟨nat_lit 0x108A7, nat_lit 0x108AF⟩,
     ⟨nat_lit 0x108FB, nat_lit 0x108FF⟩, ⟨nat_lit 0x10916, nat_lit 0x1091B⟩,
     ⟨nat_lit 0x109BC, nat_lit 0x109BD⟩, ⟨nat_lit 0x109C0, nat_lit 0x109CF⟩,
     ⟨nat_lit 0x109D2, nat_lit 0x109FF⟩, ⟨nat_lit 0x10A40, nat_lit 0x10A48⟩,
     ⟨nat_lit 0x10A7D, nat_lit 0x10A7E⟩, ⟨nat_lit 0x10A9D, nat_lit 0x10A9F⟩,
     ⟨nat_lit 0x10AEB, nat_lit 0x10AEF⟩, ⟨nat_lit 0x10B58, nat_lit 0x10B5F⟩,
     ⟨nat_lit 0x10B78, nat_lit 0x10B7F⟩, ⟨nat_lit 0x10BA9, nat_lit 0x10BAF⟩,
     ⟨nat_lit 0x10CFA, nat_lit 0x10CFF⟩, ⟨nat_lit 0x10E60, nat_lit 0x10E7E⟩,
     ⟨nat_lit 0x10F1D, nat_lit 0x10F26⟩, ⟨nat_lit 0x10F51, nat_lit 0x10F54⟩,
     ⟨nat_lit 0x10FC5, nat_lit 0x10FCB⟩, ⟨nat_lit 0x11052, nat_lit 0x11065⟩,
     ⟨nat_lit 0x111E1, nat_lit 0x111F4⟩, ⟨nat_lit 0x1173A, nat_lit 0x1173B⟩,
     ⟨nat_lit 0x118EA, nat_lit 0x118F2⟩, ⟨nat_lit 0x11C5A, nat_lit 0x11C6C⟩,
     ⟨nat_lit 0x11FC0, nat_lit 0x11FD4⟩, ⟨nat_lit 0x16B5B, nat_lit 0x16B61⟩,
     ⟨nat_lit 0x16E80, nat_lit 0x16E96⟩, ⟨nat_lit 0x1D2C0, nat_lit 0x1D2D3⟩,
     ⟨nat_lit 0x1D2E0, nat_lit 0x1D2F3⟩, ⟨nat_lit 0x1D360, nat_lit 0x1D378⟩,
     ⟨nat_lit 0x1E8C7, nat_lit 0x1E8CF⟩, ⟨nat_lit 0x1EC71, nat_lit 0x1ECAB⟩,
     ⟨nat_lit 0x1ECAD, nat_lit 0x1ECAF⟩, ⟨nat_lit 0x1ECB1, nat_lit 0x1ECB4⟩,
     ⟨nat_lit 0x1ED01, nat_lit 0x1ED2D⟩, ⟨nat_lit 0x1ED2F, nat_lit 0x1ED3D⟩,
     ⟨nat_lit 0x1F100, nat_lit 0x1F10C⟩]
  | connectorPunctuation =>
    [⟨nat_lit 0x5F, nat_lit 0x5F⟩, ⟨nat_lit 0x203F, nat_lit 0x2040⟩,
     ⟨nat_lit 0x2054, nat_lit 0x2054⟩, ⟨nat_lit 0xFE33, nat_lit 0xFE34⟩,
     ⟨nat_lit 0xFE4D, nat_lit 0xFE4F⟩, ⟨nat_lit 0xFF3F, nat_lit 0xFF3F⟩]
  | dashPunctuation =>
    [⟨nat_lit 0x2D, nat_lit 0x2D⟩, ⟨nat_lit 0x58A, nat_lit 0x58A⟩, ⟨nat_lit 0x5BE, nat_lit 0x5BE⟩,
     ⟨nat_lit 0x1400, nat_lit 0x1400⟩, ⟨nat_lit 0x1806, nat_lit 0x1806⟩,
     ⟨nat_lit 0x2010, nat_lit 0x2015⟩, ⟨nat_lit 0x2E17, nat_lit 0x2E17⟩,
     ⟨nat_lit 0x2E1A, nat_lit 0x2E1A⟩, ⟨nat_lit 0x2E3A, nat_lit 0x2E3B⟩,
     ⟨nat_lit 0x2E40, nat_lit 0x2E40⟩, ⟨nat_lit 0x2E5D, nat_lit 0x2E5D⟩,
     ⟨nat_lit 0x301C, nat_lit 0x301C⟩, ⟨nat_lit 0x3030, nat_lit 0x3030⟩,
     ⟨nat_lit 0x30A0, nat_lit 0x30A0⟩, ⟨nat_lit 0xFE31, nat_lit 0xFE32⟩,
     ⟨nat_lit 0xFE58, nat_lit 0xFE58⟩, ⟨nat_lit 0xFE63, nat_lit 0xFE63⟩,
     ⟨nat_lit 0xFF0D, nat_lit 0xFF0D⟩, ⟨nat_lit 0x10D6E, nat_lit 0x10D6E⟩,
     ⟨nat_lit 0x10EAD, nat_lit 0x10EAD⟩]
  | openPunctuation =>
    [⟨nat_lit 0x28, nat_lit 0x28⟩, ⟨nat_lit 0x5B, nat_lit 0x5B⟩, ⟨nat_lit 0x7B, nat_lit 0x7B⟩,
     ⟨nat_lit 0xF3A, nat_lit 0xF3A⟩, ⟨nat_lit 0xF3C, nat_lit 0xF3C⟩,
     ⟨nat_lit 0x169B, nat_lit 0x169B⟩, ⟨nat_lit 0x201A, nat_lit 0x201A⟩,
     ⟨nat_lit 0x201E, nat_lit 0x201E⟩, ⟨nat_lit 0x2045, nat_lit 0x2045⟩,
     ⟨nat_lit 0x207D, nat_lit 0x207D⟩, ⟨nat_lit 0x208D, nat_lit 0x208D⟩,
     ⟨nat_lit 0x2308, nat_lit 0x2308⟩, ⟨nat_lit 0x230A, nat_lit 0x230A⟩,
     ⟨nat_lit 0x2329, nat_lit 0x2329⟩, ⟨nat_lit 0x2768, nat_lit 0x2768⟩,
     ⟨nat_lit 0x276A, nat_lit 0x276A⟩, ⟨nat_lit 0x276C, nat_lit 0x276C⟩,
     ⟨nat_lit 0x276E, nat_lit 0x276E⟩, ⟨nat_lit 0x2770, nat_lit 0x2770⟩,
     ⟨nat_lit 0x2772, nat_lit 0x2772⟩, ⟨nat_lit 0x2774, nat_lit 0x2774⟩,
     ⟨nat_lit 0x27C5, nat_lit 0x27C5⟩, ⟨nat_lit 0x27E6, nat_lit 0x27E6⟩,
     ⟨nat_lit 0x27E8, nat_lit 0x27E8⟩, ⟨nat_lit 0x27EA, nat_lit 0x27EA⟩,
     ⟨nat_lit 0x27EC, nat_lit 0x27EC⟩, ⟨nat_lit 0x27EE, nat_lit 0x27EE⟩,
     ⟨nat_lit 0x2983, nat_lit 0x2983⟩, ⟨nat_lit 0x2985, nat_lit 0x2985⟩,
     ⟨nat_lit 0x2987, nat_lit 0x2987⟩, ⟨nat_lit 0x2989, nat_lit 0x2989⟩,
     ⟨nat_lit 0x298B, nat_lit 0x298B⟩, ⟨nat_lit 0x298D, nat_lit 0x298D⟩,
     ⟨nat_lit 0x298F, nat_lit 0x298F⟩, ⟨nat_lit 0x2991, nat_lit 0x2991⟩,
     ⟨nat_lit 0x2993, nat_lit 0x2993⟩, ⟨nat_lit 0x2995, nat_lit 0x2995⟩,
     ⟨nat_lit 0x2997, nat_lit 0x2997⟩, ⟨nat_lit 0x29D8, nat_lit 0x29D8⟩,
     ⟨nat_lit 0x29DA, nat_lit 0x29DA⟩, ⟨nat_lit 0x29FC, nat_lit 0x29FC⟩,
     ⟨nat_lit 0x2E22, nat_lit 0x2E22⟩, ⟨nat_lit 0x2E24, nat_lit 0x2E24⟩,
     ⟨nat_lit 0x2E26, nat_lit 0x2E26⟩, ⟨nat_lit 0x2E28, nat_lit 0x2E28⟩,
     ⟨nat_lit 0x2E42, nat_lit 0x2E42⟩, ⟨nat_lit 0x2E55, nat_lit 0x2E55⟩,
     ⟨nat_lit 0x2E57, nat_lit 0x2E57⟩, ⟨nat_lit 0x2E59, nat_lit 0x2E59⟩,
     ⟨nat_lit 0x2E5B, nat_lit 0x2E5B⟩, ⟨nat_lit 0x3008, nat_lit 0x3008⟩,
     ⟨nat_lit 0x300A, nat_lit 0x300A⟩, ⟨nat_lit 0x300C, nat_lit 0x300C⟩,
     ⟨nat_lit 0x300E, nat_lit 0x300E⟩, ⟨nat_lit 0x3010, nat_lit 0x3010⟩,
     ⟨nat_lit 0x3014, nat_lit 0x3014⟩, ⟨nat_lit 0x3016, nat_lit 0x3016⟩,
     ⟨nat_lit 0x3018, nat_lit 0x3018⟩, ⟨nat_lit 0x301A, nat_lit 0x301A⟩,
     ⟨nat_lit 0x301D, nat_lit 0x301D⟩, ⟨nat_lit 0xFD3F, nat_lit 0xFD3F⟩,
     ⟨nat_lit 0xFE17, nat_lit 0xFE17⟩, ⟨nat_lit 0xFE35, nat_lit 0xFE35⟩,
     ⟨nat_lit 0xFE37, nat_lit 0xFE37⟩, ⟨nat_lit 0xFE39, nat_lit 0xFE39⟩,
     ⟨nat_lit 0xFE3B, nat_lit 0xFE3B⟩, ⟨nat_lit 0xFE3D, nat_lit 0xFE3D⟩,
     ⟨nat_lit 0xFE3F, nat_lit 0xFE3F⟩, ⟨nat_lit 0xFE41, nat_lit 0xFE41⟩,
     ⟨nat_lit 0xFE43, nat_lit 0xFE43⟩, ⟨nat_lit 0xFE47, nat_lit 0xFE47⟩,
     ⟨nat_lit 0xFE59, nat_lit 0xFE59⟩, ⟨nat_lit 0xFE5B, nat_lit 0xFE5B⟩,
     ⟨nat_lit 0xFE5D, nat_lit 0xFE5D⟩, ⟨nat_lit 0xFF08, nat_lit 0xFF08⟩,
     ⟨nat_lit 0xFF3B, nat_lit 0xFF3B⟩, ⟨nat_lit 0xFF5B, nat_lit 0xFF5B⟩,
     ⟨nat_lit 0xFF5F, nat_lit 0xFF5F⟩, ⟨nat_lit 0xFF62, nat_lit 0xFF62⟩]
  | closePunctuation =>
    [⟨nat_lit 0x29, nat_lit 0x29⟩, ⟨nat_lit 0x5D, nat_lit 0x5D⟩, ⟨nat_lit 0x7D, nat_lit 0x7D⟩,
     ⟨nat_lit 0xF3B, nat_lit 0xF3B⟩, ⟨nat_lit 0xF3D, nat_lit 0xF3D⟩,
     ⟨nat_lit 0x169C, nat_lit 0x169C⟩, ⟨nat_lit 0x2046, nat_lit 0x2046⟩,
     ⟨nat_lit 0x207E, nat_lit 0x207E⟩, ⟨nat_lit 0x208E, nat_lit 0x208E⟩,
     ⟨nat_lit 0x2309, nat_lit 0x2309⟩, ⟨nat_lit 0x230B, nat_lit 0x230B⟩,
     ⟨nat_lit 0x232A, nat_lit 0x232A⟩, ⟨nat_lit 0x2769, nat_lit 0x2769⟩,
     ⟨nat_lit 0x276B, nat_lit 0x276B⟩, ⟨nat_lit 0x276D, nat_lit 0x276D⟩,
     ⟨nat_lit 0x276F, nat_lit 0x276F⟩, ⟨nat_lit 0x2771, nat_lit 0x2771⟩,
     ⟨nat_lit 0x2773, nat_lit 0x2773⟩, ⟨nat_lit 0x2775, nat_lit 0x2775⟩,
     ⟨nat_lit 0x27C6, nat_lit 0x27C6⟩, ⟨nat_lit 0x27E7, nat_lit 0x27E7⟩,
     ⟨nat_lit 0x27E9, nat_lit 0x27E9⟩, ⟨nat_lit 0x27EB, nat_lit 0x27EB⟩,
     ⟨nat_lit 0x27ED, nat_lit 0x27ED⟩, ⟨nat_lit 0x27EF, nat_lit 0x27EF⟩,
     ⟨nat_lit 0x2984, nat_lit 0x2984⟩, ⟨nat_lit 0x2986, nat_lit 0x2986⟩,
     ⟨nat_lit 0x2988, nat_lit 0x2988⟩, ⟨nat_lit 0x298A, nat_lit 0x298A⟩,
     ⟨nat_lit 0x298C, nat_lit 0x298C⟩, ⟨nat_lit 0x298E, nat_lit 0x298E⟩,
     ⟨nat_lit 0x2990, nat_lit 0x2990⟩, ⟨nat_lit 0x2992, nat_lit 0x2992⟩,
     ⟨nat_lit 0x2994, nat_lit 0x2994⟩, ⟨nat_lit 0x2996, nat_lit 0x2996⟩,
     ⟨nat_lit 0x2998, nat_lit 0x2998⟩, ⟨nat_lit 0x29D9, nat_lit 0x29D9⟩,
     ⟨nat_lit 0x29DB, nat_lit 0x29DB⟩, ⟨nat_lit 0x29FD, nat_lit 0x29FD⟩,
     ⟨nat_lit 0x2E23, nat_lit 0x2E23⟩, ⟨nat_lit 0x2E25, nat_lit 0x2E25⟩,
     ⟨nat_lit 0x2E27, nat_lit 0x2E27⟩, ⟨nat_lit 0x2E29, nat_lit 0x2E29⟩,
     ⟨nat_lit 0x2E56, nat_lit 0x2E56⟩, ⟨nat_lit 0x2E58, nat_lit 0x2E58⟩,
     ⟨nat_lit 0x2E5A, nat_lit 0x2E5A⟩, ⟨nat_lit 0x2E5C, nat_lit 0x2E5C⟩,
     ⟨nat_lit 0x3009, nat_lit 0x3009⟩, ⟨nat_lit 0x300B, nat_lit 0x300B⟩,
     ⟨nat_lit 0x300D, nat_lit 0x300D⟩, ⟨nat_lit 0x300F, nat_lit 0x300F⟩,
     ⟨nat_lit 0x3011, nat_lit 0x3011⟩, ⟨nat_lit 0x3015, nat_lit 0x3015⟩,
     ⟨nat_lit 0x3017, nat_lit 0x3017⟩, ⟨nat_lit 0x3019, nat_lit 0x3019⟩,
     ⟨nat_lit 0x301B, nat_lit 0x301B⟩, ⟨nat_lit 0x301E, nat_lit 0x301F⟩,
     ⟨nat_lit 0xFD3E, nat_lit 0xFD3E⟩, ⟨nat_lit 0xFE18, nat_lit 0xFE18⟩,
     ⟨nat_lit 0xFE36, nat_lit 0xFE36⟩, ⟨nat_lit 0xFE38, nat_lit 0xFE38⟩,
     ⟨nat_lit 0xFE3A, nat_lit 0xFE3A⟩, ⟨nat_lit 0xFE3C, nat_lit 0xFE3C⟩,
     ⟨nat_lit 0xFE3E, nat_lit 0xFE3E⟩, ⟨nat_lit 0xFE40, nat_lit 0xFE40⟩,
     ⟨nat_lit 0xFE42, nat_lit 0xFE42⟩, ⟨nat_lit 0xFE44, nat_lit 0xFE44⟩,
     ⟨nat_lit 0xFE48, nat_lit 0xFE48⟩, ⟨nat_lit 0xFE5A, nat_lit 0xFE5A⟩,
     ⟨nat_lit 0xFE5C, nat_lit 0xFE5C⟩, ⟨nat_lit 0xFE5E, nat_lit 0xFE5E⟩,
     ⟨nat_lit 0xFF09, nat_lit 0xFF09⟩, ⟨nat_lit 0xFF3D, nat_lit 0xFF3D⟩,
     ⟨nat_lit 0xFF5D, nat_lit 0xFF5D⟩, ⟨nat_lit 0xFF60, nat_lit 0xFF60⟩,
     ⟨nat_lit 0xFF63, nat_lit 0xFF63⟩]
  | initialPunctuation =>
    [⟨nat_lit 0xAB, nat_lit 0xAB⟩, ⟨nat_lit 0x2018, nat_lit 0x2018⟩,
     ⟨nat_lit 0x201B, nat_lit 0x201C⟩, ⟨nat_lit 0x201F, nat_lit 0x201F⟩,
     ⟨nat_lit 0x2039, nat_lit 0x2039⟩, ⟨nat_lit 0x2E02, nat_lit 0x2E02⟩,
     ⟨nat_lit 0x2E04, nat_lit 0x2E04⟩, ⟨nat_lit 0x2E09, nat_lit 0x2E09⟩,
     ⟨nat_lit 0x2E0C, nat_lit 0x2E0C⟩, ⟨nat_lit 0x2E1C, nat_lit 0x2E1C⟩,
     ⟨nat_lit 0x2E20, nat_lit 0x2E20⟩]
  | finalPunctuation =>
    [⟨nat_lit 0xBB, nat_lit 0xBB⟩, ⟨nat_lit 0x2019, nat_lit 0x2019⟩,
     ⟨nat_lit 0x201D, nat_lit 0x201D⟩, ⟨nat_lit 0x203A, nat_lit 0x203A⟩,
     ⟨nat_lit 0x2E03, nat_lit 0x2E03⟩, ⟨nat_lit 0x2E05, nat_lit 0x2E05⟩,
     ⟨nat_lit 0x2E0A, nat_lit 0x2E0A⟩, ⟨nat_lit 0x2E0D, nat_lit 0x2E0D⟩,
     ⟨nat_lit 0x2E1D, nat_lit 0x2E1D⟩, ⟨nat_lit 0x2E21, nat_lit 0x2E21⟩]
  | otherPunctuation =>
    [⟨nat_lit 0x21, nat_lit 0x23⟩, ⟨nat_lit 0x25, nat_lit 0x27⟩, ⟨nat_lit 0x2A, nat_lit 0x2A⟩,
     ⟨nat_lit 0x2C, nat_lit 0x2C⟩, ⟨nat_lit 0x2E, nat_lit 0x2F⟩, ⟨nat_lit 0x3A, nat_lit 0x3B⟩,
     ⟨nat_lit 0x3F, nat_lit 0x40⟩, ⟨nat_lit 0x5C, nat_lit 0x5C⟩, ⟨nat_lit 0xA1, nat_lit 0xA1⟩,
     ⟨nat_lit 0xA7, nat_lit 0xA7⟩, ⟨nat_lit 0xB6, nat_lit 0xB7⟩, ⟨nat_lit 0xBF, nat_lit 0xBF⟩,
     ⟨nat_lit 0x37E, nat_lit 0x37E⟩, ⟨nat_lit 0x387, nat_lit 0x387⟩,
     ⟨nat_lit 0x55A, nat_lit 0x55F⟩, ⟨nat_lit 0x589, nat_lit 0x589⟩,
     ⟨nat_lit 0x5C0, nat_lit 0x5C0⟩, ⟨nat_lit 0x5C3, nat_lit 0x5C3⟩,
     ⟨nat_lit 0x5C6, nat_lit 0x5C6⟩, ⟨nat_lit 0x5F3, nat_lit 0x5F4⟩,
     ⟨nat_lit 0x609, nat_lit 0x60A⟩, ⟨nat_lit 0x60C, nat_lit 0x60D⟩,
     ⟨nat_lit 0x61B, nat_lit 0x61B⟩, ⟨nat_lit 0x61D, nat_lit 0x61F⟩,
     ⟨nat_lit 0x66A, nat_lit 0x66D⟩, ⟨nat_lit 0x6D4, nat_lit 0x6D4⟩,
     ⟨nat_lit 0x700, nat_lit 0x70D⟩, ⟨nat_lit 0x7F7, nat_lit 0x7F9⟩,
     ⟨nat_lit 0x830, nat_lit 0x83E⟩, ⟨nat_lit 0x85E, nat_lit 0x85E⟩,
     ⟨nat_lit 0x964, nat_lit 0x965⟩, ⟨nat_lit 0x970, nat_lit 0x970⟩,
     ⟨nat_lit 0x9FD, nat_lit 0x9FD⟩, ⟨nat_lit 0xA76, nat_lit 0xA76⟩,
     ⟨nat_lit 0xAF0, nat_lit 0xAF0⟩, ⟨nat_lit 0xC77, nat_lit 0xC77⟩,
     ⟨nat_lit 0xC84, nat_lit 0xC84⟩, ⟨nat_lit 0xDF4, nat_lit 0xDF4⟩,
     ⟨nat_lit 0xE4F, nat_lit 0xE4F⟩, ⟨nat_lit 0xE5A, nat_lit 0xE5B⟩,
     ⟨nat_lit 0xF04, nat_lit 0xF12⟩, ⟨nat_lit 0xF14, nat_lit 0xF14⟩,
     ⟨nat_lit 0xF85, nat_lit 0xF85⟩, ⟨nat_lit 0xFD0, nat_lit 0xFD4⟩,
     ⟨nat_lit 0xFD9, nat_lit 0xFDA⟩, ⟨nat_lit 0x104A, nat_lit 0x104F⟩,
     ⟨nat_lit 0x10FB, nat_lit 0x10FB⟩, ⟨nat_lit 0x1360, nat_lit 0x1368⟩,
     ⟨nat_lit 0x166E, nat_lit 0x166E⟩, ⟨nat_lit 0x16EB, nat_lit 0x16ED⟩,
     ⟨nat_lit 0x1735, nat_lit 0x1736⟩, ⟨nat_lit 0x17D4, nat_lit 0x17D6⟩,
     ⟨nat_lit 0x17D8, nat_lit 0x17DA⟩, ⟨nat_lit 0x1800, nat_lit 0x1805⟩,
     ⟨nat_lit 0x1807, nat_lit 0x180A⟩, ⟨nat_lit 0x1944, nat_lit 0x1945⟩,
     ⟨nat_lit 0x1A1E, nat_lit 0x1A1F⟩, ⟨nat_lit 0x1AA0, nat_lit 0x1AA6⟩,
     ⟨nat_lit 0x1AA8, nat_lit 0x1AAD⟩, ⟨nat_lit 0x1B4E, nat_lit 0x1B4F⟩,
     ⟨nat_lit 0x1B5A, nat_lit 0x1B60⟩, ⟨nat_lit 0x1B7D, nat_lit 0x1B7F⟩,
     ⟨nat_lit 0x1BFC, nat_lit 0x1BFF⟩, ⟨nat_lit 0x1C3B, nat_lit 0x1C3F⟩,
     ⟨nat_lit 0x1C7E, nat_lit 0x1C7F⟩, ⟨nat_lit 0x1CC0, nat_lit 0x1CC7⟩,
     ⟨nat_lit 0x1CD3, nat_lit 0x1CD3⟩, ⟨nat_lit 0x2016, nat_lit 0x2017⟩,
     ⟨nat_lit 0x2020, nat_lit 0x2027⟩, ⟨nat_lit 0x2030, nat_lit 0x2038⟩,
     ⟨nat_lit 0x203B, nat_lit 0x203E⟩, ⟨nat_lit 0x2041, nat_lit 0x2043⟩,
     ⟨nat_lit 0x2047, nat_lit 0x2051⟩, ⟨nat_lit 0x2053, nat_lit 0x2053⟩,
     ⟨nat_lit 0x2055, nat_lit 0x205E⟩, ⟨nat_lit 0x2CF9, nat_lit 0x2CFC⟩,
     ⟨nat_lit 0x2CFE, nat_lit 0x2CFF⟩, ⟨nat_lit 0x2D70, nat_lit 0x2D70⟩,
     ⟨nat_lit 0x2E00, nat_lit 0x2E01⟩, ⟨nat_lit 0x2E06, nat_lit 0x2E08⟩,
     ⟨nat_lit 0x2E0B, nat_lit 0x2E0B⟩, ⟨nat_lit 0x2E0E, nat_lit 0x2E16⟩,
     ⟨nat_lit 0x2E18, nat_lit 0x2E19⟩, ⟨nat_lit 0x2E1B, nat_lit 0x2E1B⟩,
     ⟨nat_lit 0x2E1E, nat_lit 0x2E1F⟩, ⟨nat_lit 0x2E2A, nat_lit 0x2E2E⟩,
     ⟨nat_lit 0x2E30, nat_lit 0x2E39⟩, ⟨nat_lit 0x2E3C, nat_lit 0x2E3F⟩,
     ⟨nat_lit 0x2E41, nat_lit 0x2E41⟩, ⟨nat_lit 0x2E43, nat_lit 0x2E4F⟩,
     ⟨nat_lit 0x2E52, nat_lit 0x2E54⟩, ⟨nat_lit 0x3001, nat_lit 0x3003⟩,
     ⟨nat_lit 0x303D, nat_lit 0x303D⟩, ⟨nat_lit 0x30FB, nat_lit 0x30FB⟩,
     ⟨nat_lit 0xA4FE, nat_lit 0xA4FF⟩, ⟨nat_lit 0xA60D, nat_lit 0xA60F⟩,
     ⟨nat_lit 0xA673, nat_lit 0xA673⟩, ⟨nat_lit 0xA67E, nat_lit 0xA67E⟩,
     ⟨nat_lit 0xA6F2, nat_lit 0xA6F7⟩, ⟨nat_lit 0xA874, nat_lit 0xA877⟩,
     ⟨nat_lit 0xA8CE, nat_lit 0xA8CF⟩, ⟨nat_lit 0xA8F8, nat_lit 0xA8FA⟩,
     ⟨nat_lit 0xA8FC, nat_lit 0xA8FC⟩, ⟨nat_lit 0xA92E, nat_lit 0xA92F⟩,
     ⟨nat_lit 0xA95F, nat_lit 0xA95F⟩, ⟨nat_lit 0xA9C1, nat_lit 0xA9CD⟩,
     ⟨nat_lit 0xA9DE, nat_lit 0xA9DF⟩, ⟨nat_lit 0xAA5C, nat_lit 0xAA5F⟩,
     ⟨nat_lit 0xAADE, nat_lit 0xAADF⟩, ⟨nat_lit 0xAAF0, nat_lit 0xAAF1⟩,
     ⟨nat_lit 0xABEB, nat_lit 0xABEB⟩, ⟨nat_lit 0xFE10, nat_lit 0xFE16⟩,
     ⟨nat_lit 0xFE19, nat_lit 0xFE19⟩, ⟨nat_lit 0xFE30, nat_lit 0xFE30⟩,
     ⟨nat_lit 0xFE45, nat_lit 0xFE46⟩, ⟨nat_lit 0xFE49, nat_lit 0xFE4C⟩,
     ⟨nat_lit 0xFE50, nat_lit 0xFE52⟩, ⟨nat_lit 0xFE54, nat_lit 0xFE57⟩,
     ⟨nat_lit 0xFE5F, nat_lit 0xFE61⟩, ⟨nat_lit 0xFE68, nat_lit 0xFE68⟩,
     ⟨nat_lit 0xFE6A, nat_lit 0xFE6B⟩, ⟨nat_lit 0xFF01, nat_lit 0xFF03⟩,
     ⟨nat_lit 0xFF05, nat_lit 0xFF07⟩, ⟨nat_lit 0xFF0A, nat_lit 0xFF0A⟩,
     ⟨nat_lit 0xFF0C, nat_lit 0xFF0C⟩, ⟨nat_lit 0xFF0E, nat_lit 0xFF0F⟩,
     ⟨nat_lit 0xFF1A, nat_lit 0xFF1B⟩, ⟨nat_lit 0xFF1F, nat_lit 0xFF20⟩,
     ⟨nat_lit 0xFF3C, nat_lit 0xFF3C⟩, ⟨nat_lit 0xFF61, nat_lit 0xFF61⟩,
     ⟨nat_lit 0xFF64, nat_lit 0xFF65⟩, ⟨nat_lit 0x10100, nat_lit 0x10102⟩,
     ⟨nat_lit 0x1039F, nat_lit 0x1039F⟩, ⟨nat_lit 0x103D0, nat_lit 0x103D0⟩,
     ⟨nat_lit 0x1056F, nat_lit 0x1056F⟩, ⟨nat_lit 0x10857, nat_lit 0x10857⟩,
     ⟨nat_lit 0x1091F, nat_lit 0x1091F⟩, ⟨nat_lit 0x1093F, nat_lit 0x1093F⟩,
     ⟨nat_lit 0x10A50, nat_lit 0x10A58⟩, ⟨nat_lit 0x10A7F, nat_lit 0x10A7F⟩,
     ⟨nat_lit 0x10AF0, nat_lit 0x10AF6⟩, ⟨nat_lit 0x10B39, nat_lit 0x10B3F⟩,
     ⟨nat_lit 0x10B99, nat_lit 0x10B9C⟩, ⟨nat_lit 0x10F55, nat_lit 0x10F59⟩,
     ⟨nat_lit 0x10F86, nat_lit 0x10F89⟩, ⟨nat_lit 0x11047, nat_lit 0x1104D⟩,
     ⟨nat_lit 0x110BB, nat_lit 0x110BC⟩, ⟨nat_lit 0x110BE, nat_lit 0x110C1⟩,
     ⟨nat_lit 0x11140, nat_lit 0x11143⟩, ⟨nat_lit 0x11174, nat_lit 0x11175⟩,
     ⟨nat_lit 0x111C5, nat_lit 0x111C8⟩, ⟨nat_lit 0x111CD, nat_lit 0x111CD⟩,
     ⟨nat_lit 0x111DB, nat_lit 0x111DB⟩, ⟨nat_lit 0x111DD, nat_lit 0x111DF⟩,
     ⟨nat_lit 0x11238, nat_lit 0x1123D⟩, ⟨nat_lit 0x112A9, nat_lit 0x112A9⟩,
     ⟨nat_lit 0x113D4, nat_lit 0x113D5⟩, ⟨nat_lit 0x113D7, nat_lit 0x113D8⟩,
     ⟨nat_lit 0x1144B, nat_lit 0x1144F⟩, ⟨nat_lit 0x1145A, nat_lit 0x1145B⟩,
     ⟨nat_lit 0x1145D, nat_lit 0x1145D⟩, ⟨nat_lit 0x114C6, nat_lit 0x114C6⟩,
     ⟨nat_lit 0x115C1, nat_lit 0x115D7⟩, ⟨nat_lit 0x11641, nat_lit 0x11643⟩,
     ⟨nat_lit 0x11660, nat_lit 0x1166C⟩, ⟨nat_lit 0x116B9, nat_lit 0x116B9⟩,
     ⟨nat_lit 0x1173C, nat_lit 0x1173E⟩, ⟨nat_lit 0x1183B, nat_lit 0x1183B⟩,
     ⟨nat_lit 0x11944, nat_lit 0x11946⟩, ⟨nat_lit 0x119E2, nat_lit 0x119E2⟩,
     ⟨nat_lit 0x11A3F, nat_lit 0x11A46⟩, ⟨nat_lit 0x11A9A, nat_lit 0x11A9C⟩,
     ⟨nat_lit 0x11A9E, nat_lit 0x11AA2⟩, ⟨nat_lit 0x11B00, nat_lit 0x11B09⟩,
     ⟨nat_lit 0x11BE1, nat_lit 0x11BE1⟩, ⟨nat_lit 0x11C41, nat_lit 0x11C45⟩,
     ⟨nat_lit 0x11C70, nat_lit 0x11C71⟩, ⟨nat_lit 0x11EF7, nat_lit 0x11EF8⟩,
     ⟨nat_lit 0x11F43, nat_lit 0x11F4F⟩, ⟨nat_lit 0x11FFF, nat_lit 0x11FFF⟩,
     ⟨nat_lit 0x12470, nat_lit 0x12474⟩, ⟨nat_lit 0x12FF1, nat_lit 0x12FF2⟩,
     ⟨nat_lit 0x16A6E, nat_lit 0x16A6F⟩, ⟨nat_lit 0x16AF5, nat_lit 0x16AF5⟩,
     ⟨nat_lit 0x16B37, nat_lit 0x16B3B⟩, ⟨nat_lit 0x16B44, nat_lit 0x16B44⟩,
     ⟨nat_lit 0x16D6D, nat_lit 0x16D6F⟩, ⟨nat_lit 0x16E97, nat_lit 0x16E9A⟩,
     ⟨nat_lit 0x16FE2, nat_lit 0x16FE2⟩, ⟨nat_lit 0x1BC9F, nat_lit 0x1BC9F⟩,
     ⟨nat_lit 0x1DA87, nat_lit 0x1DA8B⟩, ⟨nat_lit 0x1E5FF, nat_lit 0x1E5FF⟩,
     ⟨nat_lit 0x1E95E, nat_lit 0x1E95F⟩]
  | mathSymbol =>
    [⟨nat_lit 0x2B, nat_lit 0x2B⟩, ⟨nat_lit 0x3C, nat_lit 0x3E⟩, ⟨nat_lit 0x7C, nat_lit 0x7C⟩,
     ⟨nat_lit 0x7E, nat_lit 0x7E⟩, ⟨nat_lit 0xAC, nat_lit 0xAC⟩, ⟨nat_lit 0xB1, nat_lit 0xB1⟩,
     ⟨nat_lit 0xD7, nat_lit 0xD7⟩, ⟨nat_lit 0xF7, nat_lit 0xF7⟩, ⟨nat_lit 0x3F6, nat_lit 0x3F6⟩,
     ⟨nat_lit 0x606, nat_lit 0x608⟩, ⟨nat_lit 0x2044, nat_lit 0x2044⟩,
     ⟨nat_lit 0x2052, nat_lit 0x2052⟩, ⟨nat_lit 0x207A, nat_lit 0x207C⟩,
     ⟨nat_lit 0x208A, nat_lit 0x208C⟩, ⟨nat_lit 0x2118, nat_lit 0x2118⟩,
     ⟨nat_lit 0x2140, nat_lit 0x2144⟩, ⟨nat_lit 0x214B, nat_lit 0x214B⟩,
     ⟨nat_lit 0x2190, nat_lit 0x2194⟩, ⟨nat_lit 0x219A, nat_lit 0x219B⟩,
     ⟨nat_lit 0x21A0, nat_lit 0x21A0⟩, ⟨nat_lit 0x21A3, nat_lit 0x21A3⟩,
     ⟨nat_lit 0x21A6, nat_lit 0x21A6⟩, ⟨nat_lit 0x21AE, nat_lit 0x21AE⟩,
     ⟨nat_lit 0x21CE, nat_lit 0x21CF⟩, ⟨nat_lit 0x21D2, nat_lit 0x21D2⟩,
     ⟨nat_lit 0x21D4, nat_lit 0x21D4⟩, ⟨nat_lit 0x21F4, nat_lit 0x22FF⟩,
     ⟨nat_lit 0x2320, nat_lit 0x2321⟩, ⟨nat_lit 0x237C, nat_lit 0x237C⟩,
     ⟨nat_lit 0x239B, nat_lit 0x23B3⟩, ⟨nat_lit 0x23DC, nat_lit 0x23E1⟩,
     ⟨nat_lit 0x25B7, nat_lit 0x25B7⟩, ⟨nat_lit 0x25C1, nat_lit 0x25C1⟩,
     ⟨nat_lit 0x25F8, nat_lit 0x25FF⟩, ⟨nat_lit 0x266F, nat_lit 0x266F⟩,
     ⟨nat_lit 0x27C0, nat_lit 0x27C4⟩, ⟨nat_lit 0x27C7, nat_lit 0x27E5⟩,
     ⟨nat_lit 0x27F0, nat_lit 0x27FF⟩, ⟨nat_lit 0x2900, nat_lit 0x2982⟩,
     ⟨nat_lit 0x2999, nat_lit 0x29D7⟩, ⟨nat_lit 0x29DC, nat_lit 0x29FB⟩,
     ⟨nat_lit 0x29FE, nat_lit 0x2AFF⟩, ⟨nat_lit 0x2B30, nat_lit 0x2B44⟩,
     ⟨nat_lit 0x2B47, nat_lit 0x2B4C⟩, ⟨nat_lit 0xFB29, nat_lit 0xFB29⟩,
     ⟨nat_lit 0xFE62, nat_lit 0xFE62⟩, ⟨nat_lit 0xFE64, nat_lit 0xFE66⟩,
     ⟨nat_lit 0xFF0B, nat_lit 0xFF0B⟩, ⟨nat_lit 0xFF1C, nat_lit 0xFF1E⟩,
     ⟨nat_lit 0xFF5C, nat_lit 0xFF5C⟩, ⟨nat_lit 0xFF5E, nat_lit 0xFF5E⟩,
     ⟨nat_lit 0xFFE2, nat_lit 0xFFE2⟩, ⟨nat_lit 0xFFE9, nat_lit 0xFFEC⟩,
     ⟨nat_lit 0x10D8E, nat_lit 0x10D8F⟩, ⟨nat_lit 0x1D6C1, nat_lit 0x1D6C1⟩,
     ⟨nat_lit 0x1D6DB, nat_lit 0x1D6DB⟩, ⟨nat_lit 0x1D6FB, nat_lit 0x1D6FB⟩,
     ⟨nat_lit 0x1D715, nat_lit 0x1D715⟩, ⟨nat_lit 0x1D735, nat_lit 0x1D735⟩,
     ⟨nat_lit 0x1D74F, nat_lit 0x1D74F⟩, ⟨nat_lit 0x1D76F, nat_lit 0x1D76F⟩,
     ⟨nat_lit 0x1D789, nat_lit 0x1D789⟩, ⟨nat_lit 0x1D7A9, nat_lit 0x1D7A9⟩,
     ⟨nat_lit 0x1D7C3, nat_lit 0x1D7C3⟩, ⟨nat_lit 0x1EEF0, nat_lit 0x1EEF1⟩]
  | currencySymbol =>
    [⟨nat_lit 0x24, nat_lit 0x24⟩, ⟨nat_lit 0xA2, nat_lit 0xA5⟩, ⟨nat_lit 0x58F, nat_lit 0x58F⟩,
     ⟨nat_lit 0x60B, nat_lit 0x60B⟩, ⟨nat_lit 0x7FE, nat_lit 0x7FF⟩,
     ⟨nat_lit 0x9F2, nat_lit 0x9F3⟩, ⟨nat_lit 0x9FB, nat_lit 0x9FB⟩,
     ⟨nat_lit 0xAF1, nat_lit 0xAF1⟩, ⟨nat_lit 0xBF9, nat_lit 0xBF9⟩,
     ⟨nat_lit 0xE3F, nat_lit 0xE3F⟩, ⟨nat_lit 0x17DB, nat_lit 0x17DB⟩,
     ⟨nat_lit 0x20A0, nat_lit 0x20C0⟩, ⟨nat_lit 0xA838, nat_lit 0xA838⟩,
     ⟨nat_lit 0xFDFC, nat_lit 0xFDFC⟩, ⟨nat_lit 0xFE69, nat_lit 0xFE69⟩,
     ⟨nat_lit 0xFF04, nat_lit 0xFF04⟩, ⟨nat_lit 0xFFE0, nat_lit 0xFFE1⟩,
     ⟨nat_lit 0xFFE5, nat_lit 0xFFE6⟩, ⟨nat_lit 0x11FDD, nat_lit 0x11FE0⟩,
     ⟨nat_lit 0x1E2FF, nat_lit 0x1E2FF⟩, ⟨nat_lit 0x1ECB0, nat_lit 0x1ECB0⟩]
  | modifierSymbol =>
    [⟨nat_lit 0x5E, nat_lit 0x5E⟩, ⟨nat_lit 0x60, nat_lit 0x60⟩, ⟨nat_lit 0xA8, nat_lit 0xA8⟩,
     ⟨nat_lit 0xAF, nat_lit 0xAF⟩, ⟨nat_lit 0xB4, nat_lit 0xB4⟩, ⟨nat_lit 0xB8, nat_lit 0xB8⟩,
     ⟨nat_lit 0x2C2, nat_lit 0x2C5⟩, ⟨nat_lit 0x2D2, nat_lit 0x2DF⟩,
     ⟨nat_lit 0x2E5, nat_lit 0x2EB⟩, ⟨nat_lit 0x2ED, nat_lit 0x2ED⟩,
     ⟨nat_lit 0x2EF, nat_lit 0x2FF⟩, ⟨nat_lit 0x375, nat_lit 0x375⟩,
     ⟨nat_lit 0x384, nat_lit 0x385⟩, ⟨nat_lit 0x888, nat_lit 0x888⟩,
     ⟨nat_lit 0x1FBD, nat_lit 0x1FBD⟩, ⟨nat_lit 0x1FBF, nat_lit 0x1FC1⟩,
     ⟨nat_lit 0x1FCD, nat_lit 0x1FCF⟩, ⟨nat_lit 0x1FDD, nat_lit 0x1FDF⟩,
     ⟨nat_lit 0x1FED, nat_lit 0x1FEF⟩, ⟨nat_lit 0x1FFD, nat_lit 0x1FFE⟩,
     ⟨nat_lit 0x309B, nat_lit 0x309C⟩, ⟨nat_lit 0xA700, nat_lit 0xA716⟩,
     ⟨nat_lit 0xA720, nat_lit 0xA721⟩, ⟨nat_lit 0xA789, nat_lit 0xA78A⟩,
     ⟨nat_lit 0xAB5B, nat_lit 0xAB5B⟩, ⟨nat_lit 0xAB6A, nat_lit 0xAB6B⟩,
     ⟨nat_lit 0xFBB2, nat_lit 0xFBC2⟩, ⟨nat_lit 0xFF3E, nat_lit 0xFF3E⟩,
     ⟨nat_lit 0xFF40, nat_lit 0xFF40⟩, ⟨nat_lit 0xFFE3, nat_lit 0xFFE3⟩,
     ⟨nat_lit 0x1F3FB, nat_lit 0x1F3FF⟩]
  | otherSymbol =>
    [⟨nat_lit 0xA6, nat_lit 0xA6⟩, ⟨nat_lit 0xA9, nat_lit 0xA9⟩, ⟨nat_lit 0xAE, nat_lit 0xAE⟩,
     ⟨nat_lit 0xB0, nat_lit 0xB0⟩, ⟨nat_lit 0x482, nat_lit 0x482⟩, ⟨nat_lit 0x58D, nat_lit 0x58E⟩,
     ⟨nat_lit 0x60E, nat_lit 0x60F⟩, ⟨nat_lit 0x6DE, nat_lit 0x6DE⟩,
     ⟨nat_lit 0x6E9, nat_lit 0x6E9⟩, ⟨nat_lit 0x6FD, nat_lit 0x6FE⟩,
     ⟨nat_lit 0x7F6, nat_lit 0x7F6⟩, ⟨nat_lit 0x9FA, nat_lit 0x9FA⟩,
     ⟨nat_lit 0xB70, nat_lit 0xB70⟩, ⟨nat_lit 0xBF3, nat_lit 0xBF8⟩,
     ⟨nat_lit 0xBFA, nat_lit 0xBFA⟩, ⟨nat_lit 0xC7F, nat_lit 0xC7F⟩,
     ⟨nat_lit 0xD4F, nat_lit 0xD4F⟩, ⟨nat_lit 0xD79, nat_lit 0xD79⟩,
     ⟨nat_lit 0xF01, nat_lit 0xF03⟩, ⟨nat_lit 0xF13, nat_lit 0xF13⟩,
     ⟨nat_lit 0xF15, nat_lit 0xF17⟩, ⟨nat_lit 0xF1A, nat_lit 0xF1F⟩,
     ⟨nat_lit 0xF34, nat_lit 0xF34⟩, ⟨nat_lit 0xF36, nat_lit 0xF36⟩,
     ⟨nat_lit 0xF38, nat_lit 0xF38⟩, ⟨nat_lit 0xFBE, nat_lit 0xFC5⟩,
     ⟨nat_lit 0xFC7, nat_lit 0xFCC⟩, ⟨nat_lit 0xFCE, nat_lit 0xFCF⟩,
     ⟨nat_lit 0xFD5, nat_lit 0xFD8⟩, ⟨nat_lit 0x109E, nat_lit 0x109F⟩,
     ⟨nat_lit 0x1390, nat_lit 0x1399⟩, ⟨nat_lit 0x166D, nat_lit 0x166D⟩,
     ⟨nat_lit 0x1940, nat_lit 0x1940⟩, ⟨nat_lit 0x19DE, nat_lit 0x19FF⟩,
     ⟨nat_lit 0x1B61, nat_lit 0x1B6A⟩, ⟨nat_lit 0x1B74, nat_lit 0x1B7C⟩,
     ⟨nat_lit 0x2100, nat_lit 0x2101⟩, ⟨nat_lit 0x2103, nat_lit 0x2106⟩,
     ⟨nat_lit 0x2108, nat_lit 0x2109⟩, ⟨nat_lit 0x2114, nat_lit 0x2114⟩,
     ⟨nat_lit 0x2116, nat_lit 0x2117⟩, ⟨nat_lit 0x211E, nat_lit 0x2123⟩,
     ⟨nat_lit 0x2125, nat_lit 0x2125⟩, ⟨nat_lit 0x2127, nat_lit 0x2127⟩,
     ⟨nat_lit 0x2129, nat_lit 0x2129⟩, ⟨nat_lit 0x212E, nat_lit 0x212E⟩,
     ⟨nat_lit 0x213A, nat_lit 0x213B⟩, ⟨nat_lit 0x214A, nat_lit 0x214A⟩,
     ⟨nat_lit 0x214C, nat_lit 0x214D⟩, ⟨nat_lit 0x214F, nat_lit 0x214F⟩,
     ⟨nat_lit 0x218A, nat_lit 0x218B⟩, ⟨nat_lit 0x2195, nat_lit 0x2199⟩,
     ⟨nat_lit 0x219C, nat_lit 0x219F⟩, ⟨nat_lit 0x21A1, nat_lit 0x21A2⟩,
     ⟨nat_lit 0x21A4, nat_lit 0x21A5⟩, ⟨nat_lit 0x21A7, nat_lit 0x21AD⟩,
     ⟨nat_lit 0x21AF, nat_lit 0x21CD⟩, ⟨nat_lit 0x21D0, nat_lit 0x21D1⟩,
     ⟨nat_lit 0x21D3, nat_lit 0x21D3⟩, ⟨nat_lit 0x21D5, nat_lit 0x21F3⟩,
     ⟨nat_lit 0x2300, nat_lit 0x2307⟩, ⟨nat_lit 0x230C, nat_lit 0x231F⟩,
     ⟨nat_lit 0x2322, nat_lit 0x2328⟩, ⟨nat_lit 0x232B, nat_lit 0x237B⟩,
     ⟨nat_lit 0x237D, nat_lit 0x239A⟩, ⟨nat_lit 0x23B4, nat_lit 0x23DB⟩,
     ⟨nat_lit 0x23E2, nat_lit 0x2429⟩, ⟨nat_lit 0x2440, nat_lit 0x244A⟩,
     ⟨nat_lit 0x249C, nat_lit 0x24E9⟩, ⟨nat_lit 0x2500, nat_lit 0x25B6⟩,
     ⟨nat_lit 0x25B8, nat_lit 0x25C0⟩, ⟨nat_lit 0x25C2, nat_lit 0x25F7⟩,
     ⟨nat_lit 0x2600, nat_lit 0x266E⟩, ⟨nat_lit 0x2670, nat_lit 0x2767⟩,
     ⟨nat_lit 0x2794, nat_lit 0x27BF⟩, ⟨nat_lit 0x2800, nat_lit 0x28FF⟩,
     ⟨nat_lit 0x2B00, nat_lit 0x2B2F⟩, ⟨nat_lit 0x2B45, nat_lit 0x2B46⟩,
     ⟨nat_lit 0x2B4D, nat_lit 0x2B73⟩, ⟨nat_lit 0x2B76, nat_lit 0x2B95⟩,
     ⟨nat_lit 0x2B97, nat_lit 0x2BFF⟩, ⟨nat_lit 0x2CE5, nat_lit 0x2CEA⟩,
     ⟨nat_lit 0x2E50, nat_lit 0x2E51⟩, ⟨nat_lit 0x2E80, nat_lit 0x2E99⟩,
     ⟨nat_lit 0x2E9B, nat_lit 0x2EF3⟩, ⟨nat_lit 0x2F00, nat_lit 0x2FD5⟩,
     ⟨nat_lit 0x2FF0, nat_lit 0x2FFF⟩, ⟨nat_lit 0x3004, nat_lit 0x3004⟩,
     ⟨nat_lit 0x3012, nat_lit 0x3013⟩, ⟨nat_lit 0x3020, nat_lit 0x3020⟩,
     ⟨nat_lit 0x3036, nat_lit 0x3037⟩, ⟨nat_lit 0x303E, nat_lit 0x303F⟩,
     ⟨nat_lit 0x3190, nat_lit 0x3191⟩, ⟨nat_lit 0x3196, nat_lit 0x319F⟩,
     ⟨nat_lit 0x31C0, nat_lit 0x31E5⟩, ⟨nat_lit 0x31EF, nat_lit 0x31EF⟩,
     ⟨nat_lit 0x3200, nat_lit 0x321E⟩, ⟨nat_lit 0x322A, nat_lit 0x3247⟩,
     ⟨nat_lit 0x3250, nat_lit 0x3250⟩, ⟨nat_lit 0x3260, nat_lit 0x327F⟩,
     ⟨nat_lit 0x328A, nat_lit 0x32B0⟩, ⟨nat_lit 0x32C0, nat_lit 0x33FF⟩,
     ⟨nat_lit 0x4DC0, nat_lit 0x4DFF⟩, ⟨nat_lit 0xA490, nat_lit 0xA4C6⟩,
     ⟨nat_lit 0xA828, nat_lit 0xA82B⟩, ⟨nat_lit 0xA836, nat_lit 0xA837⟩,
     ⟨nat_lit 0xA839, nat_lit 0xA839⟩, ⟨nat_lit 0xAA77, nat_lit 0xAA79⟩,
     ⟨nat_lit 0xFD40, nat_lit 0xFD4F⟩, ⟨nat_lit 0xFDCF, nat_lit 0xFDCF⟩,
     ⟨nat_lit 0xFDFD, nat_lit 0xFDFF⟩, ⟨nat_lit 0xFFE4, nat_lit 0xFFE4⟩,
     ⟨nat_lit 0xFFE8, nat_lit 0xFFE8⟩, ⟨nat_lit 0xFFED, nat_lit 0xFFEE⟩,
     ⟨nat_lit 0xFFFC, nat_lit 0xFFFD⟩, ⟨nat_lit 0x10137, nat_lit 0x1013F⟩,
     ⟨nat_lit 0x10179, nat_lit 0x10189⟩, ⟨nat_lit 0x1018C, nat_lit 0x1018E⟩,
     ⟨nat_lit 0x10190, nat_lit 0x1019C⟩, ⟨nat_lit 0x101A0, nat_lit 0x101A0⟩,
     ⟨nat_lit 0x101D0, nat_lit 0x101FC⟩, ⟨nat_lit 0x10877, nat_lit 0x10878⟩,
     ⟨nat_lit 0x10AC8, nat_lit 0x10AC8⟩, ⟨nat_lit 0x1173F, nat_lit 0x1173F⟩,
     ⟨nat_lit 0x11FD5, nat_lit 0x11FDC⟩, ⟨nat_lit 0x11FE1, nat_lit 0x11FF1⟩,
     ⟨nat_lit 0x16B3C, nat_lit 0x16B3F⟩, ⟨nat_lit 0x16B45, nat_lit 0x16B45⟩,
     ⟨nat_lit 0x1BC9C, nat_lit 0x1BC9C⟩, ⟨nat_lit 0x1CC00, nat_lit 0x1CCEF⟩,
     ⟨nat_lit 0x1CD00, nat_lit 0x1CEB3⟩, ⟨nat_lit 0x1CF50, nat_lit 0x1CFC3⟩,
     ⟨nat_lit 0x1D000, nat_lit 0x1D0F5⟩, ⟨nat_lit 0x1D100, nat_lit 0x1D126⟩,
     ⟨nat_lit 0x1D129, nat_lit 0x1D164⟩, ⟨nat_lit 0x1D16A, nat_lit 0x1D16C⟩,
     ⟨nat_lit 0x1D183, nat_lit 0x1D184⟩, ⟨nat_lit 0x1D18C, nat_lit 0x1D1A9⟩,
     ⟨nat_lit 0x1D1AE, nat_lit 0x1D1EA⟩, ⟨nat_lit 0x1D200, nat_lit 0x1D241⟩,
     ⟨nat_lit 0x1D245, nat_lit 0x1D245⟩, ⟨nat_lit 0x1D300, nat_lit 0x1D356⟩,
     ⟨nat_lit 0x1D800, nat_lit 0x1D9FF⟩, ⟨nat_lit 0x1DA37, nat_lit 0x1DA3A⟩,
     ⟨nat_lit 0x1DA6D, nat_lit 0x1DA74⟩, ⟨nat_lit 0x1DA76, nat_lit 0x1DA83⟩,
     ⟨nat_lit 0x1DA85, nat_lit 0x1DA86⟩, ⟨nat_lit 0x1E14F, nat_lit 0x1E14F⟩,
     ⟨nat_lit 0x1ECAC, nat_lit 0x1ECAC⟩, ⟨nat_lit 0x1ED2E, nat_lit 0x1ED2E⟩,
     ⟨nat_lit 0x1F000, nat_lit 0x1F02B⟩, ⟨nat_lit 0x1F030, nat_lit 0x1F093⟩,
     ⟨nat_lit 0x1F0A0, nat_lit 0x1F0AE⟩, ⟨nat_lit 0x1F0B1, nat_lit 0x1F0BF⟩,
     ⟨nat_lit 0x1F0C1, nat_lit 0x1F0CF⟩, ⟨nat_lit 0x1F0D1, nat_lit 0x1F0F5⟩,
     ⟨nat_lit 0x1F10D, nat_lit 0x1F1AD⟩, ⟨nat_lit 0x1F1E6, nat_lit 0x1F202⟩,
     ⟨nat_lit 0x1F210, nat_lit 0x1F23B⟩, ⟨nat_lit 0x1F240, nat_lit 0x1F248⟩,
     ⟨nat_lit 0x1F250, nat_lit 0x1F251⟩, ⟨nat_lit 0x1F260, nat_lit 0x1F265⟩,
     ⟨nat_lit 0x1F300, nat_lit 0x1F3FA⟩, ⟨nat_lit 0x1F400, nat_lit 0x1F6D7⟩,
     ⟨nat_lit 0x1F6DC, nat_lit 0x1F6EC⟩, ⟨nat_lit 0x1F6F0, nat_lit 0x1F6FC⟩,
     ⟨nat_lit 0x1F700, nat_lit 0x1F776⟩, ⟨nat_lit 0x1F77B, nat_lit 0x1F7D9⟩,
     ⟨nat_lit 0x1F7E0, nat_lit 0x1F7EB⟩, ⟨nat_lit 0x1F7F0, nat_lit 0x1F7F0⟩,
     ⟨nat_lit 0x1F800, nat_lit 0x1F80B⟩, ⟨nat_lit 0x1F810, nat_lit 0x1F847⟩,
     ⟨nat_lit 0x1F850, nat_lit 0x1F859⟩, ⟨nat_lit 0x1F860, nat_lit 0x1F887⟩,
     ⟨nat_lit 0x1F890, nat_lit 0x1F8AD⟩, ⟨nat_lit 0x1F8B0, nat_lit 0x1F8BB⟩,
     ⟨nat_lit 0x1F8C0, nat_lit 0x1F8C1⟩, ⟨nat_lit 0x1F900, nat_lit 0x1FA53⟩,
     ⟨nat_lit 0x1FA60, nat_lit 0x1FA6D⟩, ⟨nat_lit 0x1FA70, nat_lit 0x1FA7C⟩,
     ⟨nat_lit 0x1FA80, nat_lit 0x1FA89⟩, ⟨nat_lit 0x1FA8F, nat_lit 0x1FAC6⟩,
     ⟨nat_lit 0x1FACE, nat_lit 0x1FADC⟩, ⟨nat_lit 0x1FADF, nat_lit 0x1FAE9⟩,
     ⟨nat_lit 0x1FAF0, nat_lit 0x1FAF8⟩, ⟨nat_lit 0x1FB00, nat_lit 0x1FB92⟩,
     ⟨nat_lit 0x1FB94, nat_lit 0x1FBEF⟩]
  | spaceSeparator =>
    [⟨nat_lit 0x20, nat_lit 0x20⟩, ⟨nat_lit 0xA0, nat_lit 0xA0⟩, ⟨nat_lit 0x1680, nat_lit 0x1680⟩,
     ⟨nat_lit 0x2000, nat_lit 0x200A⟩, ⟨nat_lit 0x202F, nat_lit 0x202F⟩,
     ⟨nat_lit 0x205F, nat_lit 0x205F⟩, ⟨nat_lit 0x3000, nat_lit 0x3000⟩]
  | lineSeparator =>
    [⟨nat_lit 0x2028, nat_lit 0x2028⟩]
  | paragraphSeparator =>
    [⟨nat_lit 0x2029, nat_lit 0x2029⟩]
  | control =>
    [⟨nat_lit 0x0, nat_lit 0x1F⟩, ⟨nat_lit 0x7F, nat_lit 0x9F⟩]
  | format =>
    [⟨nat_lit 0xAD, nat_lit 0xAD⟩, ⟨nat_lit 0x600, nat_lit 0x605⟩, ⟨nat_lit 0x61C, nat_lit 0x61C⟩,
     ⟨nat_lit 0x6DD, nat_lit 0x6DD⟩, ⟨nat_lit 0x70F, nat_lit 0x70F⟩,
     ⟨nat_lit 0x890, nat_lit 0x891⟩, ⟨nat_lit 0x8E2, nat_lit 0x8E2⟩,
     ⟨nat_lit 0x180E, nat_lit 0x180E⟩, ⟨nat_lit 0x200B, nat_lit 0x200F⟩,
     ⟨nat_lit 0x202A, nat_lit 0x202E⟩, ⟨nat_lit 0x2060, nat_lit 0x2064⟩,
     ⟨nat_lit 0x2066, nat_lit 0x206F⟩, ⟨nat_lit 0xFEFF, nat_lit 0xFEFF⟩,
     ⟨nat_lit 0xFFF9, nat_lit 0xFFFB⟩, ⟨nat_lit 0x110BD, nat_lit 0x110BD⟩,
     ⟨nat_lit 0x110CD, nat_lit 0x110CD⟩, ⟨nat_lit 0x13430, nat_lit 0x1343F⟩,
     ⟨nat_lit 0x1BCA0, nat_lit 0x1BCA3⟩, ⟨nat_lit 0x1D173, nat_lit 0x1D17A⟩,
     ⟨nat_lit 0xE0001, nat_lit 0xE0001⟩, ⟨nat_lit 0xE0020, nat_lit 0xE007F⟩]
  | surrogate =>
    [⟨nat_lit 0xD800, nat_lit 0xDFFF⟩]
  | privateUse =>
    [⟨nat_lit 0xE000, nat_lit 0xF8FF⟩, ⟨nat_lit 0xF0000, nat_lit 0xFFFFD⟩,
     ⟨nat_lit 0x100000, nat_lit 0x10FFFD⟩]
  | unassigned =>
    [⟨nat_lit 0x378, nat_lit 0x379⟩, ⟨nat_lit 0x380, nat_lit 0x383⟩,
     ⟨nat_lit 0x38B, nat_lit 0x38B⟩, ⟨nat_lit 0x38D, nat_lit 0x38D⟩,
     ⟨nat_lit 0x3A2, nat_lit 0x3A2⟩, ⟨nat_lit 0x530, nat_lit 0x530⟩,
     ⟨nat_lit 0x557, nat_lit 0x558⟩, ⟨nat_lit 0x58B, nat_lit 0x58C⟩,
     ⟨nat_lit 0x590, nat_lit 0x590⟩, ⟨nat_lit 0x5C8, nat_lit 0x5CF⟩,
     ⟨nat_lit 0x5EB, nat_lit 0x5EE⟩, ⟨nat_lit 0x5F5, nat_lit 0x5FF⟩,
     ⟨nat_lit 0x70E, nat_lit 0x70E⟩, ⟨nat_lit 0x74B, nat_lit 0x74C⟩,
     ⟨nat_lit 0x7B2, nat_lit 0x7BF⟩, ⟨nat_lit 0x7FB, nat_lit 0x7FC⟩,
     ⟨nat_lit 0x82E, nat_lit 0x82F⟩, ⟨nat_lit 0x83F, nat_lit 0x83F⟩,
     ⟨nat_lit 0x85C, nat_lit 0x85D⟩, ⟨nat_lit 0x85F, nat_lit 0x85F⟩,
     ⟨nat_lit 0x86B, nat_lit 0x86F⟩, ⟨nat_lit 0x88F, nat_lit 0x88F⟩,
     ⟨nat_lit 0x892, nat_lit 0x896⟩, ⟨nat_lit 0x984, nat_lit 0x984⟩,
     ⟨nat_lit 0x98D, nat_lit 0x98E⟩, ⟨nat_lit 0x991, nat_lit 0x992⟩,
     ⟨nat_lit 0x9A9, nat_lit 0x9A9⟩, ⟨nat_lit 0x9B1, nat_lit 0x9B1⟩,
     ⟨nat_lit 0x9B3, nat_lit 0x9B5⟩, ⟨nat_lit 0x9BA, nat_lit 0x9BB⟩,
     ⟨nat_lit 0x9C5, nat_lit 0x9C6⟩, ⟨nat_lit 0x9C9, nat_lit 0x9CA⟩,
     ⟨nat_lit 0x9CF, nat_lit 0x9D6⟩, ⟨nat_lit 0x9D8, nat_lit 0x9DB⟩,
     ⟨nat_lit 0x9DE, nat_lit 0x9DE⟩, ⟨nat_lit 0x9E4, nat_lit 0x9E5⟩,
     ⟨nat_lit 0x9FF, nat_lit 0xA00⟩, ⟨nat_lit 0xA04, nat_lit 0xA04⟩,
     ⟨nat_lit 0xA0B, nat_lit 0xA0E⟩, ⟨nat_lit 0xA11, nat_lit 0xA12⟩,
     ⟨nat_lit 0xA29, nat_lit 0xA29⟩, ⟨nat_lit 0xA31, nat_lit 0xA31⟩,
     ⟨nat_lit 0xA34, nat_lit 0xA34⟩, ⟨nat_lit 0xA37, nat_lit 0xA37⟩,
     ⟨nat_lit 0xA3A, nat_lit 0xA3B⟩, ⟨nat_lit 0xA3D, nat_lit 0xA3D⟩,
     ⟨nat_lit 0xA43, nat_lit 0xA46⟩, ⟨nat_lit 0xA49, nat_lit 0xA4A⟩,
     ⟨nat_lit 0xA4E, nat_lit 0xA50⟩, ⟨nat_lit 0xA52, nat_lit 0xA58⟩,
     ⟨nat_lit 0xA5D, nat_lit 0xA5D⟩, ⟨nat_lit 0xA5F, nat_lit 0xA65⟩,
     ⟨nat_lit 0xA77, nat_lit 0xA80⟩, ⟨nat_lit 0xA84, nat_lit 0xA84⟩,
     ⟨nat_lit 0xA8E, nat_lit 0xA8E⟩, ⟨nat_lit 0xA92, nat_lit 0xA92⟩,
     ⟨nat_lit 0xAA9, nat_lit 0xAA9⟩, ⟨nat_lit 0xAB1, nat_lit 0xAB1⟩,
     ⟨nat_lit 0xAB4, nat_lit 0xAB4⟩, ⟨nat_lit 0xABA, nat_lit 0xABB⟩,
     ⟨nat_lit 0xAC6, nat_lit 0xAC6⟩, ⟨nat_lit 0xACA, nat_lit 0xACA⟩,
     ⟨nat_lit 0xACE, nat_lit 0xACF⟩, ⟨nat_lit 0xAD1, nat_lit 0xADF⟩,
     ⟨nat_lit 0xAE4, nat_lit 0xAE5⟩, ⟨nat_lit 0xAF2, nat_lit 0xAF8⟩,
     ⟨nat_lit 0xB00, nat_lit 0xB00⟩, ⟨nat_lit 0xB04, nat_lit 0xB04⟩,
     ⟨nat_lit 0xB0D, nat_lit 0xB0E⟩, ⟨nat_lit 0xB11, nat_lit 0xB12⟩,
     ⟨nat_lit 0xB29, nat_lit 0xB29⟩, ⟨nat_lit 0xB31, nat_lit 0xB31⟩,
     ⟨nat_lit 0xB34, nat_lit 0xB34⟩, ⟨nat_lit 0xB3A, nat_lit 0xB3B⟩,
     ⟨nat_lit 0xB45, nat_lit 0xB46⟩, ⟨nat_lit 0xB49, nat_lit 0xB4A⟩,
     ⟨nat_lit 0xB4E, nat_lit 0xB54⟩, ⟨nat_lit 0xB58, nat_lit 0xB5B⟩,
     ⟨nat_lit 0xB5E, nat_lit 0xB5E⟩, ⟨nat_lit 0xB64, nat_lit 0xB65⟩,
     ⟨nat_lit 0xB78, nat_lit 0xB81⟩, ⟨nat_lit 0xB84, nat_lit 0xB84⟩,
     ⟨nat_lit 0xB8B, nat_lit 0xB8D⟩, ⟨nat_lit 0xB91, nat_lit 0xB91⟩,
     ⟨nat_lit 0xB96, nat_lit 0xB98⟩, ⟨nat_lit 0xB9B, nat_lit 0xB9B⟩,
     ⟨nat_lit 0xB9D, nat_lit 0xB9D⟩, ⟨nat_lit 0xBA0, nat_lit 0xBA2⟩,
     ⟨nat_lit 0xBA5, nat_lit 0xBA7⟩, ⟨nat_lit 0xBAB, nat_lit 0xBAD⟩,
     ⟨nat_lit 0xBBA, nat_lit 0xBBD⟩, ⟨nat_lit 0xBC3, nat_lit 0xBC5⟩,
     ⟨nat_lit 0xBC9, nat_lit 0xBC9⟩, ⟨nat_lit 0xBCE, nat_lit 0xBCF⟩,
     ⟨nat_lit 0xBD1, nat_lit 0xBD6⟩, ⟨nat_lit 0xBD8, nat_lit 0xBE5⟩,
     ⟨nat_lit 0xBFB, nat_lit 0xBFF⟩, ⟨nat_lit 0xC0D, nat_lit 0xC0D⟩,
     ⟨nat_lit 0xC11, nat_lit 0xC11⟩, ⟨nat_lit 0xC29, nat_lit 0xC29⟩,
     ⟨nat_lit 0xC3A, nat_lit 0xC3B⟩, ⟨nat_lit 0xC45, nat_lit 0xC45⟩,
     ⟨nat_lit 0xC49, nat_lit 0xC49⟩, ⟨nat_lit 0xC4E, nat_lit 0xC54⟩,
     ⟨nat_lit 0xC57, nat_lit 0xC57⟩, ⟨nat_lit 0xC5B, nat_lit 0xC5C⟩,
     ⟨nat_lit 0xC5E, nat_lit 0xC5F⟩, ⟨nat_lit 0xC64, nat_lit 0xC65⟩,
     ⟨nat_lit 0xC70, nat_lit 0xC76⟩, ⟨nat_lit 0xC8D, nat_lit 0xC8D⟩,
     ⟨nat_lit 0xC91, nat_lit 0xC91⟩, ⟨nat_lit 0xCA9, nat_lit 0xCA9⟩,
     ⟨nat_lit 0xCB4, nat_lit 0xCB4⟩, ⟨nat_lit 0xCBA, nat_lit 0xCBB⟩,
     ⟨nat_lit 0xCC5, nat_lit 0xCC5⟩, ⟨nat_lit 0xCC9, nat_lit 0xCC9⟩,
     ⟨nat_lit 0xCCE, nat_lit 0xCD4⟩, ⟨nat_lit 0xCD7, nat_lit 0xCDC⟩,
     ⟨nat_lit 0xCDF, nat_lit 0xCDF⟩, ⟨nat_lit 0xCE4, nat_lit 0xCE5⟩,
     ⟨nat_lit 0xCF0, nat_lit 0xCF0⟩, ⟨nat_lit 0xCF4, nat_lit 0xCFF⟩,
     ⟨nat_lit 0xD0D, nat_lit 0xD0D⟩, ⟨nat_lit 0xD11, nat_lit 0xD11⟩,
     ⟨nat_lit 0xD45, nat_lit 0xD45⟩, ⟨nat_lit 0xD49, nat_lit 0xD49⟩,
     ⟨nat_lit 0xD50, nat_lit 0xD53⟩, ⟨nat_lit 0xD64, nat_lit 0xD65⟩,
     ⟨nat_lit 0xD80, nat_lit 0xD80⟩, ⟨nat_lit 0xD84, nat_lit 0xD84⟩,
     ⟨nat_lit 0xD97, nat_lit 0xD99⟩, ⟨nat_lit 0xDB2, nat_lit 0xDB2⟩,
     ⟨nat_lit 0xDBC, nat_lit 0xDBC⟩, ⟨nat_lit 0xDBE, nat_lit 0xDBF⟩,
     ⟨nat_lit 0xDC7, nat_lit 0xDC9⟩, ⟨nat_lit 0xDCB, nat_lit 0xDCE⟩,
     ⟨nat_lit 0xDD5, nat_lit 0xDD5⟩, ⟨nat_lit 0xDD7, nat_lit 0xDD7⟩,
     ⟨nat_lit 0xDE0, nat_lit 0xDE5⟩, ⟨nat_lit 0xDF0, nat_lit 0xDF1⟩,
     ⟨nat_lit 0xDF5, nat_lit 0xE00⟩, ⟨nat_lit 0xE3B, nat_lit 0xE3E⟩,
     ⟨nat_lit 0xE5C, nat_lit 0xE80⟩, ⟨nat_lit 0xE83, nat_lit 0xE83⟩,
     ⟨nat_lit 0xE85, nat_lit 0xE85⟩, ⟨nat_lit 0xE8B, nat_lit 0xE8B⟩,
     ⟨nat_lit 0xEA4, nat_lit 0xEA4⟩, ⟨nat_lit 0xEA6, nat_lit 0xEA6⟩,
     ⟨nat_lit 0xEBE, nat_lit 0xEBF⟩, ⟨nat_lit 0xEC5, nat_lit 0xEC5⟩,
     ⟨nat_lit 0xEC7, nat_lit 0xEC7⟩, ⟨nat_lit 0xECF, nat_lit 0xECF⟩,
     ⟨nat_lit 0xEDA, nat_lit 0xEDB⟩, ⟨nat_lit 0xEE0, nat_lit 0xEFF⟩,
     ⟨nat_lit 0xF48, nat_lit 0xF48⟩, ⟨nat_lit 0xF6D, nat_lit 0xF70⟩,
     ⟨nat_lit 0xF98, nat_lit 0xF98⟩, ⟨nat_lit 0xFBD, nat_lit 0xFBD⟩,
     ⟨nat_lit 0xFCD, nat_lit 0xFCD⟩, ⟨nat_lit 0xFDB, nat_lit 0xFFF⟩,
     ⟨nat_lit 0x10C6, nat_lit 0x10C6⟩, ⟨nat_lit 0x10C8, nat_lit 0x10CC⟩,
     ⟨nat_lit 0x10CE, nat_lit 0x10CF⟩, ⟨nat_lit 0x1249, nat_lit 0x1249⟩,
     ⟨nat_lit 0x124E, nat_lit 0x124F⟩, ⟨nat_lit 0x1257, nat_lit 0x1257⟩,
     ⟨nat_lit 0x1259, nat_lit 0x1259⟩, ⟨nat_lit 0x125E, nat_lit 0x125F⟩,
     ⟨nat_lit 0x1289, nat_lit 0x1289⟩, ⟨nat_lit 0x128E, nat_lit 0x128F⟩,
     ⟨nat_lit 0x12B1, nat_lit 0x12B1⟩, ⟨nat_lit 0x12B6, nat_lit 0x12B7⟩,
     ⟨nat_lit 0x12BF, nat_lit 0x12BF⟩, ⟨nat_lit 0x12C1, nat_lit 0x12C1⟩,
     ⟨nat_lit 0x12C6, nat_lit 0x12C7⟩, ⟨nat_lit 0x12D7, nat_lit 0x12D7⟩,
     ⟨nat_lit 0x1311, nat_lit 0x1311⟩, ⟨nat_lit 0x1316, nat_lit 0x1317⟩,
     ⟨nat_lit 0x135B, nat_lit 0x135C⟩, ⟨nat_lit 0x137D, nat_lit 0x137F⟩,
     ⟨nat_lit 0x139A, nat_lit 0x139F⟩, ⟨nat_lit 0x13F6, nat_lit 0x13F7⟩,
     ⟨nat_lit 0x13FE, nat_lit 0x13FF⟩, ⟨nat_lit 0x169D, nat_lit 0x169F⟩,
     ⟨nat_lit 0x16F9, nat_lit 0x16FF⟩, ⟨nat_lit 0x1716, nat_lit 0x171E⟩,
     ⟨nat_lit 0x1737, nat_lit 0x173F⟩, ⟨nat_lit 0x1754, nat_lit 0x175F⟩,
     ⟨nat_lit 0x176D, nat_lit 0x176D⟩, ⟨nat_lit 0x1771, nat_lit 0x1771⟩,
     ⟨nat_lit 0x1774, nat_lit 0x177F⟩, ⟨nat_lit 0x17DE, nat_lit 0x17DF⟩,
     ⟨nat_lit 0x17EA, nat_lit 0x17EF⟩, ⟨nat_lit 0x17FA, nat_lit 0x17FF⟩,
     ⟨nat_lit 0x181A, nat_lit 0x181F⟩, ⟨nat_lit 0x1879, nat_lit 0x187F⟩,
     ⟨nat_lit 0x18AB, nat_lit 0x18AF⟩, ⟨nat_lit 0x18F6, nat_lit 0x18FF⟩,
     ⟨nat_lit 0x191F, nat_lit 0x191F⟩, ⟨nat_lit 0x192C, nat_lit 0x192F⟩,
     ⟨nat_lit 0x193C, nat_lit 0x193F⟩, ⟨nat_lit 0x1941, nat_lit 0x1943⟩,
     ⟨nat_lit 0x196E, nat_lit 0x196F⟩, ⟨nat_lit 0x1975, nat_lit 0x197F⟩,
     ⟨nat_lit 0x19AC, nat_lit 0x19AF⟩, ⟨nat_lit 0x19CA, nat_lit 0x19CF⟩,
     ⟨nat_lit 0x19DB, nat_lit 0x19DD⟩, ⟨nat_lit 0x1A1C, nat_lit 0x1A1D⟩,
     ⟨nat_lit 0x1A5F, nat_lit 0x1A5F⟩, ⟨nat_lit 0x1A7D, nat_lit 0x1A7E⟩,
     ⟨nat_lit 0x1A8A, nat_lit 0x1A8F⟩, ⟨nat_lit 0x1A9A, nat_lit 0x1A9F⟩,
     ⟨nat_lit 0x1AAE, nat_lit 0x1AAF⟩, ⟨nat_lit 0x1ACF, nat_lit 0x1AFF⟩,
     ⟨nat_lit 0x1B4D, nat_lit 0x1B4D⟩, ⟨nat_lit 0x1BF4, nat_lit 0x1BFB⟩,
     ⟨nat_lit 0x1C38, nat_lit 0x1C3A⟩, ⟨nat_lit 0x1C4A, nat_lit 0x1C4C⟩,
     ⟨nat_lit 0x1C8B, nat_lit 0x1C8F⟩, ⟨nat_lit 0x1CBB, nat_lit 0x1CBC⟩,
     ⟨nat_lit 0x1CC8, nat_lit 0x1CCF⟩, ⟨nat_lit 0x1CFB, nat_lit 0x1CFF⟩,
     ⟨nat_lit 0x1F16, nat_lit 0x1F17⟩, ⟨nat_lit 0x1F1E, nat_lit 0x1F1F⟩,
     ⟨nat_lit 0x1F46, nat_lit 0x1F47⟩, ⟨nat_lit 0x1F4E, nat_lit 0x1F4F⟩,
     ⟨nat_lit 0x1F58, nat_lit 0x1F58⟩, ⟨nat_lit 0x1F5A, nat_lit 0x1F5A⟩,
     ⟨nat_lit 0x1F5C, nat_lit 0x1F5C⟩, ⟨nat_lit 0x1F5E, nat_lit 0x1F5E⟩,
     ⟨nat_lit 0x1F7E, nat_lit 0x1F7F⟩, ⟨nat_lit 0x1FB5, nat_lit 0x1FB5⟩,
     ⟨nat_lit 0x1FC5, nat_lit 0x1FC5⟩, ⟨nat_lit 0x1FD4, nat_lit 0x1FD5⟩,
     ⟨nat_lit 0x1FDC, nat_lit 0x1FDC⟩, ⟨nat_lit 0x1FF0, nat_lit 0x1FF1⟩,
     ⟨nat_lit 0x1FF5, nat_lit 0x1FF5⟩, ⟨nat_lit 0x1FFF, nat_lit 0x1FFF⟩,
     ⟨nat_lit 0x2065, nat_lit 0x2065⟩, ⟨nat_lit 0x2072, nat_lit 0x2073⟩,
     ⟨nat_lit 0x208F, nat_lit 0x208F⟩, ⟨nat_lit 0x209D, nat_lit 0x209F⟩,
     ⟨nat_lit 0x20C1, nat_lit 0x20CF⟩, ⟨nat_lit 0x20F1, nat_lit 0x20FF⟩,
     ⟨nat_lit 0x218C, nat_lit 0x218F⟩, ⟨nat_lit 0x242A, nat_lit 0x243F⟩,
     ⟨nat_lit 0x244B, nat_lit 0x245F⟩, ⟨nat_lit 0x2B74, nat_lit 0x2B75⟩,
     ⟨nat_lit 0x2B96, nat_lit 0x2B96⟩, ⟨nat_lit 0x2CF4, nat_lit 0x2CF8⟩,
     ⟨nat_lit 0x2D26, nat_lit 0x2D26⟩, ⟨nat_lit 0x2D28, nat_lit 0x2D2C⟩,
     ⟨nat_lit 0x2D2E, nat_lit 0x2D2F⟩, ⟨nat_lit 0x2D68, nat_lit 0x2D6E⟩,
     ⟨nat_lit 0x2D71, nat_lit 0x2D7E⟩, ⟨nat_lit 0x2D97, nat_lit 0x2D9F⟩,
     ⟨nat_lit 0x2DA7, nat_lit 0x2DA7⟩, ⟨nat_lit 0x2DAF, nat_lit 0x2DAF⟩,
     ⟨nat_lit 0x2DB7, nat_lit 0x2DB7⟩, ⟨nat_lit 0x2DBF, nat_lit 0x2DBF⟩,
     ⟨nat_lit 0x2DC7, nat_lit 0x2DC7⟩, ⟨nat_lit 0x2DCF, nat_lit 0x2DCF⟩,
     ⟨nat_lit 0x2DD7, nat_lit 0x2DD7⟩, ⟨nat_lit 0x2DDF, nat_lit 0x2DDF⟩,
     ⟨nat_lit 0x2E5E, nat_lit 0x2E7F⟩, ⟨nat_lit 0x2E9A, nat_lit 0x2E9A⟩,
     ⟨nat_lit 0x2EF4, nat_lit 0x2EFF⟩, ⟨nat_lit 0x2FD6, nat_lit 0x2FEF⟩,
     ⟨nat_lit 0x3040, nat_lit 0x3040⟩, ⟨nat_lit 0x3097, nat_lit 0x3098⟩,
     ⟨nat_lit 0x3100, nat_lit 0x3104⟩, ⟨nat_lit 0x3130, nat_lit 0x3130⟩,
     ⟨nat_lit 0x318F, nat_lit 0x318F⟩, ⟨nat_lit 0x31E6, nat_lit 0x31EE⟩,
     ⟨nat_lit 0x321F, nat_lit 0x321F⟩, ⟨nat_lit 0xA48D, nat_lit 0xA48F⟩,
     ⟨nat_lit 0xA4C7, nat_lit 0xA4CF⟩, ⟨nat_lit 0xA62C, nat_lit 0xA63F⟩,
     ⟨nat_lit 0xA6F8, nat_lit 0xA6FF⟩, ⟨nat_lit 0xA7CE, nat_lit 0xA7CF⟩,
     ⟨nat_lit 0xA7D2, nat_lit 0xA7D2⟩, ⟨nat_lit 0xA7D4, nat_lit 0xA7D4⟩,
     ⟨nat_lit 0xA7DD, nat_lit 0xA7F1⟩, ⟨nat_lit 0xA82D, nat_lit 0xA82F⟩,
     ⟨nat_lit 0xA83A, nat_lit 0xA83F⟩, ⟨nat_lit 0xA878, nat_lit 0xA87F⟩,
     ⟨nat_lit 0xA8C6, nat_lit 0xA8CD⟩, ⟨nat_lit 0xA8DA, nat_lit 0xA8DF⟩,
     ⟨nat_lit 0xA954, nat_lit 0xA95E⟩, ⟨nat_lit 0xA97D, nat_lit 0xA97F⟩,
     ⟨nat_lit 0xA9CE, nat_lit 0xA9CE⟩, ⟨nat_lit 0xA9DA, nat_lit 0xA9DD⟩,
     ⟨nat_lit 0xA9FF, nat_lit 0xA9FF⟩, ⟨nat_lit 0xAA37, nat_lit 0xAA3F⟩,
     ⟨nat_lit 0xAA4E, nat_lit 0xAA4F⟩, ⟨nat_lit 0xAA5A, nat_lit 0xAA5B⟩,
     ⟨nat_lit 0xAAC3, nat_lit 0xAADA⟩, ⟨nat_lit 0xAAF7, nat_lit 0xAB00⟩,
     ⟨nat_lit 0xAB07, nat_lit 0xAB08⟩, ⟨nat_lit 0xAB0F, nat_lit 0xAB10⟩,
     ⟨nat_lit 0xAB17, nat_lit 0xAB1F⟩, ⟨nat_lit 0xAB27, nat_lit 0xAB27⟩,
     ⟨nat_lit 0xAB2F, nat_lit 0xAB2F⟩, ⟨nat_lit 0xAB6C, nat_lit 0xAB6F⟩,
     ⟨nat_lit 0xABEE, nat_lit 0xABEF⟩, ⟨nat_lit 0xABFA, nat_lit 0xABFF⟩,
     ⟨nat_lit 0xD7A4, nat_lit 0xD7AF⟩, ⟨nat_lit 0xD7C7, nat_lit 0xD7CA⟩,
     ⟨nat_lit 0xD7FC, nat_lit 0xD7FF⟩, ⟨nat_lit 0xFA6E, nat_lit 0xFA6F⟩,
     ⟨nat_lit 0xFADA, nat_lit 0xFAFF⟩, ⟨nat_lit 0xFB07, nat_lit 0xFB12⟩,
     ⟨nat_lit 0xFB18, nat_lit 0xFB1C⟩, ⟨nat_lit 0xFB37, nat_lit 0xFB37⟩,
     ⟨nat_lit 0xFB3D, nat_lit 0xFB3D⟩, ⟨nat_lit 0xFB3F, nat_lit 0xFB3F⟩,
     ⟨nat_lit 0xFB42, nat_lit 0xFB42⟩, ⟨nat_lit 0xFB45, nat_lit 0xFB45⟩,
     ⟨nat_lit 0xFBC3, nat_lit 0xFBD2⟩, ⟨nat_lit 0xFD90, nat_lit 0xFD91⟩,
     ⟨nat_lit 0xFDC8, nat_lit 0xFDCE⟩, ⟨nat_lit 0xFDD0, nat_lit 0xFDEF⟩,
     ⟨nat_lit 0xFE1A, nat_lit 0xFE1F⟩, ⟨nat_lit 0xFE53, nat_lit 0xFE53⟩,
     ⟨nat_lit 0xFE67, nat_lit 0xFE67⟩, ⟨nat_lit 0xFE6C, nat_lit 0xFE6F⟩,
     ⟨nat_lit 0xFE75, nat_lit 0xFE75⟩, ⟨nat_lit 0xFEFD, nat_lit 0xFEFE⟩,
     ⟨nat_lit 0xFF00, nat_lit 0xFF00⟩, ⟨nat_lit 0xFFBF, nat_lit 0xFFC1⟩,
     ⟨nat_lit 0xFFC8, nat_lit 0xFFC9⟩, ⟨nat_lit 0xFFD0, nat_lit 0xFFD1⟩,
     ⟨nat_lit 0xFFD8, nat_lit 0xFFD9⟩, ⟨nat_lit 0xFFDD, nat_lit 0xFFDF⟩,
     ⟨nat_lit 0xFFE7, nat_lit 0xFFE7⟩, ⟨nat_lit 0xFFEF, nat_lit 0xFFF8⟩,
     ⟨nat_lit 0xFFFE, nat_lit 0xFFFF⟩, ⟨nat_lit 0x1000C, nat_lit 0x1000C⟩,
     ⟨nat_lit 0x10027, nat_lit 0x10027⟩, ⟨nat_lit 0x1003B, nat_lit 0x1003B⟩,
     ⟨nat_lit 0x1003E, nat_lit 0x1003E⟩, ⟨nat_lit 0x1004E, nat_lit 0x1004F⟩,
     ⟨nat_lit 0x1005E, nat_lit 0x1007F⟩, ⟨nat_lit 0x100FB, nat_lit 0x100FF⟩,
     ⟨nat_lit 0x10103, nat_lit 0x10106⟩, ⟨nat_lit 0x10134, nat_lit 0x10136⟩,
     ⟨nat_lit 0x1018F, nat_lit 0x1018F⟩, ⟨nat_lit 0x1019D, nat_lit 0x1019F⟩,
     ⟨nat_lit 0x101A1, nat_lit 0x101CF⟩, ⟨nat_lit 0x101FE, nat_lit 0x1027F⟩,
     ⟨nat_lit 0x1029D, nat_lit 0x1029F⟩, ⟨nat_lit 0x102D1, nat_lit 0x102DF⟩,
     ⟨nat_lit 0x102FC, nat_lit 0x102FF⟩, ⟨nat_lit 0x10324, nat_lit 0x1032C⟩,
     ⟨nat_lit 0x1034B, nat_lit 0x1034F⟩, ⟨nat_lit 0x1037B, nat_lit 0x1037F⟩,
     ⟨nat_lit 0x1039E, nat_lit 0x1039E⟩, ⟨nat_lit 0x103C4, nat_lit 0x103C7⟩,
     ⟨nat_lit 0x103D6, nat_lit 0x103FF⟩, ⟨nat_lit 0x1049E, nat_lit 0x1049F⟩,
     ⟨nat_lit 0x104AA, nat_lit 0x104AF⟩, ⟨nat_lit 0x104D4, nat_lit 0x104D7⟩,
     ⟨nat_lit 0x104FC, nat_lit 0x104FF⟩, ⟨nat_lit 0x10528, nat_lit 0x1052F⟩,
     ⟨nat_lit 0x10564, nat_lit 0x1056E⟩, ⟨nat_lit 0x1057B, nat_lit 0x1057B⟩,
     ⟨nat_lit 0x1058B, nat_lit 0x1058B⟩, ⟨nat_lit 0x10593, nat_lit 0x10593⟩,
     ⟨nat_lit 0x10596, nat_lit 0x10596⟩, ⟨nat_lit 0x105A2, nat_lit 0x105A2⟩,
     ⟨nat_lit 0x105B2, nat_lit 0x105B2⟩, ⟨nat_lit 0x105BA, nat_lit 0x105BA⟩,
     ⟨nat_lit 0x105BD, nat_lit 0x105BF⟩, ⟨nat_lit 0x105F4, nat_lit 0x105FF⟩,
     ⟨nat_lit 0x10737, nat_lit 0x1073F⟩, ⟨nat_lit 0x10756, nat_lit 0x1075F⟩,
     ⟨nat_lit 0x10768, nat_lit 0x1077F⟩, ⟨nat_lit 0x10786, nat_lit 0x10786⟩,
     ⟨nat_lit 0x107B1, nat_lit 0x107B1⟩, ⟨nat_lit 0x107BB, nat_lit 0x107FF⟩,
     ⟨nat_lit 0x10806, nat_lit 0x10807⟩, ⟨nat_lit 0x10809, nat_lit 0x10809⟩,
     ⟨nat_lit 0x10836, nat_lit 0x10836⟩, ⟨nat_lit 0x10839, nat_lit 0x1083B⟩,
     ⟨nat_lit 0x1083D, nat_lit 0x1083E⟩, ⟨nat_lit 0x10856, nat_lit 0x10856⟩,
     ⟨nat_lit 0x1089F, nat_lit 0x108A6⟩, ⟨nat_lit 0x108B0, nat_lit 0x108DF⟩,
     ⟨nat_lit 0x108F3, nat_lit 0x108F3⟩, ⟨nat_lit 0x108F6, nat_lit 0x108FA⟩,
     ⟨nat_lit 0x1091C, nat_lit 0x1091E⟩, ⟨nat_lit 0x1093A, nat_lit 0x1093E⟩,
     ⟨nat_lit 0x10940, nat_lit 0x1097F⟩, ⟨nat_lit 0x109B8, nat_lit 0x109BB⟩,
     ⟨nat_lit 0x109D0, nat_lit 0x109D1⟩, ⟨nat_lit 0x10A04, nat_lit 0x10A04⟩,
     ⟨nat_lit 0x10A07, nat_lit 0x10A0B⟩, ⟨nat_lit 0x10A14, nat_lit 0x10A14⟩,
     ⟨nat_lit 0x10A18, nat_lit 0x10A18⟩, ⟨nat_lit 0x10A36, nat_lit 0x10A37⟩,
     ⟨nat_lit 0x10A3B, nat_lit 0x10A3E⟩, ⟨nat_lit 0x10A49, nat_lit 0x10A4F⟩,
     ⟨nat_lit 0x10A59, nat_lit 0x10A5F⟩, ⟨nat_lit 0x10AA0, nat_lit 0x10ABF⟩,
     ⟨nat_lit 0x10AE7, nat_lit 0x10AEA⟩, ⟨nat_lit 0x10AF7, nat_lit 0x10AFF⟩,
     ⟨nat_lit 0x10B36, nat_lit 0x10B38⟩, ⟨nat_lit 0x10B56, nat_lit 0x10B57⟩,
     ⟨nat_lit 0x10B73, nat_lit 0x10B77⟩, ⟨nat_lit 0x10B92, nat_lit 0x10B98⟩,
     ⟨nat_lit 0x10B9D, nat_lit 0x10BA8⟩, ⟨nat_lit 0x10BB0, nat_lit 0x10BFF⟩,
     ⟨nat_lit 0x10C49, nat_lit 0x10C7F⟩, ⟨nat_lit 0x10CB3, nat_lit 0x10CBF⟩,
     ⟨nat_lit 0x10CF3, nat_lit 0x10CF9⟩, ⟨nat_lit 0x10D28, nat_lit 0x10D2F⟩,
     ⟨nat_lit 0x10D3A, nat_lit 0x10D3F⟩, ⟨nat_lit 0x10D66, nat_lit 0x10D68⟩,
     ⟨nat_lit 0x10D86, nat_lit 0x10D8D⟩, ⟨nat_lit 0x10D90, nat_lit 0x10E5F⟩,
     ⟨nat_lit 0x10E7F, nat_lit 0x10E7F⟩, ⟨nat_lit 0x10EAA, nat_lit 0x10EAA⟩,
     ⟨nat_lit 0x10EAE, nat_lit 0x10EAF⟩, ⟨nat_lit 0x10EB2, nat_lit 0x10EC1⟩,
     ⟨nat_lit 0x10EC5, nat_lit 0x10EFB⟩, ⟨nat_lit 0x10F28, nat_lit 0x10F2F⟩,
     ⟨nat_lit 0x10F5A, nat_lit 0x10F6F⟩, ⟨nat_lit 0x10F8A, nat_lit 0x10FAF⟩,
     ⟨nat_lit 0x10FCC, nat_lit 0x10FDF⟩, ⟨nat_lit 0x10FF7, nat_lit 0x10FFF⟩,
     ⟨nat_lit 0x1104E, nat_lit 0x11051⟩, ⟨nat_lit 0x11076, nat_lit 0x1107E⟩,
     ⟨nat_lit 0x110C3, nat_lit 0x110CC⟩, ⟨nat_lit 0x110CE, nat_lit 0x110CF⟩,
     ⟨nat_lit 0x110E9, nat_lit 0x110EF⟩, ⟨nat_lit 0x110FA, nat_lit 0x110FF⟩,
     ⟨nat_lit 0x11135, nat_lit 0x11135⟩, ⟨nat_lit 0x11148, nat_lit 0x1114F⟩,
     ⟨nat_lit 0x11177, nat_lit 0x1117F⟩, ⟨nat_lit 0x111E0, nat_lit 0x111E0⟩,
     ⟨nat_lit 0x111F5, nat_lit 0x111FF⟩, ⟨nat_lit 0x11212, nat_lit 0x11212⟩,
     ⟨nat_lit 0x11242, nat_lit 0x1127F⟩, ⟨nat_lit 0x11287, nat_lit 0x11287⟩,
     ⟨nat_lit 0x11289, nat_lit 0x11289⟩, ⟨nat_lit 0x1128E, nat_lit 0x1128E⟩,
     ⟨nat_lit 0x1129E, nat_lit 0x1129E⟩, ⟨nat_lit 0x112AA, nat_lit 0x112AF⟩,
     ⟨nat_lit 0x112EB, nat_lit 0x112EF⟩, ⟨nat_lit 0x112FA, nat_lit 0x112FF⟩,
     ⟨nat_lit 0x11304, nat_lit 0x11304⟩, ⟨nat_lit 0x1130D, nat_lit 0x1130E⟩,
     ⟨nat_lit 0x11311, nat_lit 0x11312⟩, ⟨nat_lit 0x11329, nat_lit 0x11329⟩,
     ⟨nat_lit 0x11331, nat_lit 0x11331⟩, ⟨nat_lit 0x11334, nat_lit 0x11334⟩,
     ⟨nat_lit 0x1133A, nat_lit 0x1133A⟩, ⟨nat_lit 0x11345, nat_lit 0x11346⟩,
     ⟨nat_lit 0x11349, nat_lit 0x1134A⟩, ⟨nat_lit 0x1134E, nat_lit 0x1134F⟩,
     ⟨nat_lit 0x11351, nat_lit 0x11356⟩, ⟨nat_lit 0x11358, nat_lit 0x1135C⟩,
     ⟨nat_lit 0x11364, nat_lit 0x11365⟩, ⟨nat_lit 0x1136D, nat_lit 0x1136F⟩,
     ⟨nat_lit 0x11375, nat_lit 0x1137F⟩, ⟨nat_lit 0x1138A, nat_lit 0x1138A⟩,
     ⟨nat_lit 0x1138C, nat_lit 0x1138D⟩, ⟨nat_lit 0x1138F, nat_lit 0x1138F⟩,
     ⟨nat_lit 0x113B6, nat_lit 0x113B6⟩, ⟨nat_lit 0x113C1, nat_lit 0x113C1⟩,
     ⟨nat_lit 0x113C3, nat_lit 0x113C4⟩, ⟨nat_lit 0x113C6, nat_lit 0x113C6⟩,
     ⟨nat_lit 0x113CB, nat_lit 0x113CB⟩, ⟨nat_lit 0x113D6, nat_lit 0x113D6⟩,
     ⟨nat_lit 0x113D9, nat_lit 0x113E0⟩, ⟨nat_lit 0x113E3, nat_lit 0x113FF⟩,
     ⟨nat_lit 0x1145C, nat_lit 0x1145C⟩, ⟨nat_lit 0x11462, nat_lit 0x1147F⟩,
     ⟨nat_lit 0x114C8, nat_lit 0x114CF⟩, ⟨nat_lit 0x114DA, nat_lit 0x1157F⟩,
     ⟨nat_lit 0x115B6, nat_lit 0x115B7⟩, ⟨nat_lit 0x115DE, nat_lit 0x115FF⟩,
     ⟨nat_lit 0x11645, nat_lit 0x1164F⟩, ⟨nat_lit 0x1165A, nat_lit 0x1165F⟩,
     ⟨nat_lit 0x1166D, nat_lit 0x1167F⟩, ⟨nat_lit 0x116BA, nat_lit 0x116BF⟩,
     ⟨nat_lit 0x116CA, nat_lit 0x116CF⟩, ⟨nat_lit 0x116E4, nat_lit 0x116FF⟩,
     ⟨nat_lit 0x1171B, nat_lit 0x1171C⟩, ⟨nat_lit 0x1172C, nat_lit 0x1172F⟩,
     ⟨nat_lit 0x11747, nat_lit 0x117FF⟩, ⟨nat_lit 0x1183C, nat_lit 0x1189F⟩,
     ⟨nat_lit 0x118F3, nat_lit 0x118FE⟩, ⟨nat_lit 0x11907, nat_lit 0x11908⟩,
     ⟨nat_lit 0x1190A, nat_lit 0x1190B⟩, ⟨nat_lit 0x11914, nat_lit 0x11914⟩,
     ⟨nat_lit 0x11917, nat_lit 0x11917⟩, ⟨nat_lit 0x11936, nat_lit 0x11936⟩,
     ⟨nat_lit 0x11939, nat_lit 0x1193A⟩, ⟨nat_lit 0x11947, nat_lit 0x1194F⟩,
     ⟨nat_lit 0x1195A, nat_lit 0x1199F⟩, ⟨nat_lit 0x119A8, nat_lit 0x119A9⟩,
     ⟨nat_lit 0x119D8, nat_lit 0x119D9⟩, ⟨nat_lit 0x119E5, nat_lit 0x119FF⟩,
     ⟨nat_lit 0x11A48, nat_lit 0x11A4F⟩, ⟨nat_lit 0x11AA3, nat_lit 0x11AAF⟩,
     ⟨nat_lit 0x11AF9, nat_lit 0x11AFF⟩, ⟨nat_lit 0x11B0A, nat_lit 0x11BBF⟩,
     ⟨nat_lit 0x11BE2, nat_lit 0x11BEF⟩, ⟨nat_lit 0x11BFA, nat_lit 0x11BFF⟩,
     ⟨nat_lit 0x11C09, nat_lit 0x11C09⟩, ⟨nat_lit 0x11C37, nat_lit 0x11C37⟩,
     ⟨nat_lit 0x11C46, nat_lit 0x11C4F⟩, ⟨nat_lit 0x11C6D, nat_lit 0x11C6F⟩,
     ⟨nat_lit 0x11C90, nat_lit 0x11C91⟩, ⟨nat_lit 0x11CA8, nat_lit 0x11CA8⟩,
     ⟨nat_lit 0x11CB7, nat_lit 0x11CFF⟩, ⟨nat_lit 0x11D07, nat_lit 0x11D07⟩,
     ⟨nat_lit 0x11D0A, nat_lit 0x11D0A⟩, ⟨nat_lit 0x11D37, nat_lit 0x11D39⟩,
     ⟨nat_lit 0x11D3B, nat_lit 0x11D3B⟩, ⟨nat_lit 0x11D3E, nat_lit 0x11D3E⟩,
     ⟨nat_lit 0x11D48, nat_lit 0x11D4F⟩, ⟨nat_lit 0x11D5A, nat_lit 0x11D5F⟩,
     ⟨nat_lit 0x11D66, nat_lit 0x11D66⟩, ⟨nat_lit 0x11D69, nat_lit 0x11D69⟩,
     ⟨nat_lit 0x11D8F, nat_lit 0x11D8F⟩, ⟨nat_lit 0x11D92, nat_lit 0x11D92⟩,
     ⟨nat_lit 0x11D99, nat_lit 0x11D9F⟩, ⟨nat_lit 0x11DAA, nat_lit 0x11EDF⟩,
     ⟨nat_lit 0x11EF9, nat_lit 0x11EFF⟩, ⟨nat_lit 0x11F11, nat_lit 0x11F11⟩,
     ⟨nat_lit 0x11F3B, nat_lit 0x11F3D⟩, ⟨nat_lit 0x11F5B, nat_lit 0x11FAF⟩,
     ⟨nat_lit 0x11FB1, nat_lit 0x11FBF⟩, ⟨nat_lit 0x11FF2, nat_lit 0x11FFE⟩,
     ⟨nat_lit 0x1239A, nat_lit 0x123FF⟩, ⟨nat_lit 0x1246F, nat_lit 0x1246F⟩,
     ⟨nat_lit 0x12475, nat_lit 0x1247F⟩, ⟨nat_lit 0x12544, nat_lit 0x12F8F⟩,
     ⟨nat_lit 0x12FF3, nat_lit 0x12FFF⟩, ⟨nat_lit 0x13456, nat_lit 0x1345F⟩,
     ⟨nat_lit 0x143FB, nat_lit 0x143FF⟩, ⟨nat_lit 0x14647, nat_lit 0x160FF⟩,
     ⟨nat_lit 0x1613A, nat_lit 0x167FF⟩, ⟨nat_lit 0x16A39, nat_lit 0x16A3F⟩,
     ⟨nat_lit 0x16A5F, nat_lit 0x16A5F⟩, ⟨nat_lit 0x16A6A, nat_lit 0x16A6D⟩,
     ⟨nat_lit 0x16ABF, nat_lit 0x16ABF⟩, ⟨nat_lit 0x16ACA, nat_lit 0x16ACF⟩,
     ⟨nat_lit 0x16AEE, nat_lit 0x16AEF⟩, ⟨nat_lit 0x16AF6, nat_lit 0x16AFF⟩,
     ⟨nat_lit 0x16B46, nat_lit 0x16B4F⟩, ⟨nat_lit 0x16B5A, nat_lit 0x16B5A⟩,
     ⟨nat_lit 0x16B62, nat_lit 0x16B62⟩, ⟨nat_lit 0x16B78, nat_lit 0x16B7C⟩,
     ⟨nat_lit 0x16B90, nat_lit 0x16D3F⟩, ⟨nat_lit 0x16D7A, nat_lit 0x16E3F⟩,
     ⟨nat_lit 0x16E9B, nat_lit 0x16EFF⟩, ⟨nat_lit 0x16F4B, nat_lit 0x16F4E⟩,
     ⟨nat_lit 0x16F88, nat_lit 0x16F8E⟩, ⟨nat_lit 0x16FA0, nat_lit 0x16FDF⟩,
     ⟨nat_lit 0x16FE5, nat_lit 0x16FEF⟩, ⟨nat_lit 0x16FF2, nat_lit 0x16FFF⟩,
     ⟨nat_lit 0x187F8, nat_lit 0x187FF⟩, ⟨nat_lit 0x18CD6, nat_lit 0x18CFE⟩,
     ⟨nat_lit 0x18D09, nat_lit 0x1AFEF⟩, ⟨nat_lit 0x1AFF4, nat_lit 0x1AFF4⟩,
     ⟨nat_lit 0x1AFFC, nat_lit 0x1AFFC⟩, ⟨nat_lit 0x1AFFF, nat_lit 0x1AFFF⟩,
     ⟨nat_lit 0x1B123, nat_lit 0x1B131⟩, ⟨nat_lit 0x1B133, nat_lit 0x1B14F⟩,
     ⟨nat_lit 0x1B153, nat_lit 0x1B154⟩, ⟨nat_lit 0x1B156, nat_lit 0x1B163⟩,
     ⟨nat_lit 0x1B168, nat_lit 0x1B16F⟩, ⟨nat_lit 0x1B2FC, nat_lit 0x1BBFF⟩,
     ⟨nat_lit 0x1BC6B, nat_lit 0x1BC6F⟩, ⟨nat_lit 0x1BC7D, nat_lit 0x1BC7F⟩,
     ⟨nat_lit 0x1BC89, nat_lit 0x1BC8F⟩, ⟨nat_lit 0x1BC9A, nat_lit 0x1BC9B⟩,
     ⟨nat_lit 0x1BCA4, nat_lit 0x1CBFF⟩, ⟨nat_lit 0x1CCFA, nat_lit 0x1CCFF⟩,
     ⟨nat_lit 0x1CEB4, nat_lit 0x1CEFF⟩, ⟨nat_lit 0x1CF2E, nat_lit 0x1CF2F⟩,
     ⟨nat_lit 0x1CF47, nat_lit 0x1CF4F⟩, ⟨nat_lit 0x1CFC4, nat_lit 0x1CFFF⟩,
     ⟨nat_lit 0x1D0F6, nat_lit 0x1D0FF⟩, ⟨nat_lit 0x1D127, nat_lit 0x1D128⟩,
     ⟨nat_lit 0x1D1EB, nat_lit 0x1D1FF⟩, ⟨nat_lit 0x1D246, nat_lit 0x1D2BF⟩,
     ⟨nat_lit 0x1D2D4, nat_lit 0x1D2DF⟩, ⟨nat_lit 0x1D2F4, nat_lit 0x1D2FF⟩,
     ⟨nat_lit 0x1D357, nat_lit 0x1D35F⟩, ⟨nat_lit 0x1D379, nat_lit 0x1D3FF⟩,
     ⟨nat_lit 0x1D455, nat_lit 0x1D455⟩, ⟨nat_lit 0x1D49D, nat_lit 0x1D49D⟩,
     ⟨nat_lit 0x1D4A0, nat_lit 0x1D4A1⟩, ⟨nat_lit 0x1D4A3, nat_lit 0x1D4A4⟩,
     ⟨nat_lit 0x1D4A7, nat_lit 0x1D4A8⟩, ⟨nat_lit 0x1D4AD, nat_lit 0x1D4AD⟩,
     ⟨nat_lit 0x1D4BA, nat_lit 0x1D4BA⟩, ⟨nat_lit 0x1D4BC, nat_lit 0x1D4BC⟩,
     ⟨nat_lit 0x1D4C4, nat_lit 0x1D4C4⟩, ⟨nat_lit 0x1D506, nat_lit 0x1D506⟩,
     ⟨nat_lit 0x1D50B, nat_lit 0x1D50C⟩, ⟨nat_lit 0x1D515, nat_lit 0x1D515⟩,
     ⟨nat_lit 0x1D51D, nat_lit 0x1D51D⟩, ⟨nat_lit 0x1D53A, nat_lit 0x1D53A⟩,
     ⟨nat_lit 0x1D53F, nat_lit 0x1D53F⟩, ⟨nat_lit 0x1D545, nat_lit 0x1D545⟩,
     ⟨nat_lit 0x1D547, nat_lit 0x1D549⟩, ⟨nat_lit 0x1D551, nat_lit 0x1D551⟩,
     ⟨nat_lit 0x1D6A6, nat_lit 0x1D6A7⟩, ⟨nat_lit 0x1D7CC, nat_lit 0x1D7CD⟩,
     ⟨nat_lit 0x1DA8C, nat_lit 0x1DA9A⟩, ⟨nat_lit 0x1DAA0, nat_lit 0x1DAA0⟩,
     ⟨nat_lit 0x1DAB0, nat_lit 0x1DEFF⟩, ⟨nat_lit 0x1DF1F, nat_lit 0x1DF24⟩,
     ⟨nat_lit 0x1DF2B, nat_lit 0x1DFFF⟩, ⟨nat_lit 0x1E007, nat_lit 0x1E007⟩,
     ⟨nat_lit 0x1E019, nat_lit 0x1E01A⟩, ⟨nat_lit 0x1E022, nat_lit 0x1E022⟩,
     ⟨nat_lit 0x1E025, nat_lit 0x1E025⟩, ⟨nat_lit 0x1E02B, nat_lit 0x1E02F⟩,
     ⟨nat_lit 0x1E06E, nat_lit 0x1E08E⟩, ⟨nat_lit 0x1E090, nat_lit 0x1E0FF⟩,
     ⟨nat_lit 0x1E12D, nat_lit 0x1E12F⟩, ⟨nat_lit 0x1E13E, nat_lit 0x1E13F⟩,
     ⟨nat_lit 0x1E14A, nat_lit 0x1E14D⟩, ⟨nat_lit 0x1E150, nat_lit 0x1E28F⟩,
     ⟨nat_lit 0x1E2AF, nat_lit 0x1E2BF⟩, ⟨nat_lit 0x1E2FA, nat_lit 0x1E2FE⟩,
     ⟨nat_lit 0x1E300, nat_lit 0x1E4CF⟩, ⟨nat_lit 0x1E4FA, nat_lit 0x1E5CF⟩,
     ⟨nat_lit 0x1E5FB, nat_lit 0x1E5FE⟩, ⟨nat_lit 0x1E600, nat_lit 0x1E7DF⟩,
     ⟨nat_lit 0x1E7E7, nat_lit 0x1E7E7⟩, ⟨nat_lit 0x1E7EC, nat_lit 0x1E7EC⟩,
     ⟨nat_lit 0x1E7EF, nat_lit 0x1E7EF⟩, ⟨nat_lit 0x1E7FF, nat_lit 0x1E7FF⟩,
     ⟨nat_lit 0x1E8C5, nat_lit 0x1E8C6⟩, ⟨nat_lit 0x1E8D7, nat_lit 0x1E8FF⟩,
     ⟨nat_lit 0x1E94C, nat_lit 0x1E94F⟩, ⟨nat_lit 0x1E95A, nat_lit 0x1E95D⟩,
     ⟨nat_lit 0x1E960, nat_lit 0x1EC70⟩, ⟨nat_lit 0x1ECB5, nat_lit 0x1ED00⟩,
     ⟨nat_lit 0x1ED3E, nat_lit 0x1EDFF⟩, ⟨nat_lit 0x1EE04, nat_lit 0x1EE04⟩,
     ⟨nat_lit 0x1EE20, nat_lit 0x1EE20⟩, ⟨nat_lit 0x1EE23, nat_lit 0x1EE23⟩,
     ⟨nat_lit 0x1EE25, nat_lit 0x1EE26⟩, ⟨nat_lit 0x1EE28, nat_lit 0x1EE28⟩,
     ⟨nat_lit 0x1EE33, nat_lit 0x1EE33⟩, ⟨nat_lit 0x1EE38, nat_lit 0x1EE38⟩,
     ⟨nat_lit 0x1EE3A, nat_lit 0x1EE3A⟩, ⟨nat_lit 0x1EE3C, nat_lit 0x1EE41⟩,
     ⟨nat_lit 0x1EE43, nat_lit 0x1EE46⟩, ⟨nat_lit 0x1EE48, nat_lit 0x1EE48⟩,
     ⟨nat_lit 0x1EE4A, nat_lit 0x1EE4A⟩, ⟨nat_lit 0x1EE4C, nat_lit 0x1EE4C⟩,
     ⟨nat_lit 0x1EE50, nat_lit 0x1EE50⟩, ⟨nat_lit 0x1EE53, nat_lit 0x1EE53⟩,
     ⟨nat_lit 0x1EE55, nat_lit 0x1EE56⟩, ⟨nat_lit 0x1EE58, nat_lit 0x1EE58⟩,
     ⟨nat_lit 0x1EE5A, nat_lit 0x1EE5A⟩, ⟨nat_lit 0x1EE5C, nat_lit 0x1EE5C⟩,
     ⟨nat_lit 0x1EE5E, nat_lit 0x1EE5E⟩, ⟨nat_lit 0x1EE60, nat_lit 0x1EE60⟩,
     ⟨nat_lit 0x1EE63, nat_lit 0x1EE63⟩, ⟨nat_lit 0x1EE65, nat_lit 0x1EE66⟩,
     ⟨nat_lit 0x1EE6B, nat_lit 0x1EE6B⟩, ⟨nat_lit 0x1EE73, nat_lit 0x1EE73⟩,
     ⟨nat_lit 0x1EE78, nat_lit 0x1EE78⟩, ⟨nat_lit 0x1EE7D, nat_lit 0x1EE7D⟩,
     ⟨nat_lit 0x1EE7F, nat_lit 0x1EE7F⟩, ⟨nat_lit 0x1EE8A, nat_lit 0x1EE8A⟩,
     ⟨nat_lit 0x1EE9C, nat_lit 0x1EEA0⟩, ⟨nat_lit 0x1EEA4, nat_lit 0x1EEA4⟩,
     ⟨nat_lit 0x1EEAA, nat_lit 0x1EEAA⟩, ⟨nat_lit 0x1EEBC, nat_lit 0x1EEEF⟩,
     ⟨nat_lit 0x1EEF2, nat_lit 0x1EFFF⟩, ⟨nat_lit 0x1F02C, nat_lit 0x1F02F⟩,
     ⟨nat_lit 0x1F094, nat_lit 0x1F09F⟩, ⟨nat_lit 0x1F0AF, nat_lit 0x1F0B0⟩,
     ⟨nat_lit 0x1F0C0, nat_lit 0x1F0C0⟩, ⟨nat_lit 0x1F0D0, nat_lit 0x1F0D0⟩,
     ⟨nat_lit 0x1F0F6, nat_lit 0x1F0FF⟩, ⟨nat_lit 0x1F1AE, nat_lit 0x1F1E5⟩,
     ⟨nat_lit 0x1F203, nat_lit 0x1F20F⟩, ⟨nat_lit 0x1F23C, nat_lit 0x1F23F⟩,
     ⟨nat_lit 0x1F249, nat_lit 0x1F24F⟩, ⟨nat_lit 0x1F252, nat_lit 0x1F25F⟩,
     ⟨nat_lit 0x1F266, nat_lit 0x1F2FF⟩, ⟨nat_lit 0x1F6D8, nat_lit 0x1F6DB⟩,
     ⟨nat_lit 0x1F6ED, nat_lit 0x1F6EF⟩, ⟨nat_lit 0x1F6FD, nat_lit 0x1F6FF⟩,
     ⟨nat_lit 0x1F777, nat_lit 0x1F77A⟩, ⟨nat_lit 0x1F7DA, nat_lit 0x1F7DF⟩,
     ⟨nat_lit 0x1F7EC, nat_lit 0x1F7EF⟩, ⟨nat_lit 0x1F7F1, nat_lit 0x1F7FF⟩,
     ⟨nat_lit 0x1F80C, nat_lit 0x1F80F⟩, ⟨nat_lit 0x1F848, nat_lit 0x1F84F⟩,
     ⟨nat_lit 0x1F85A, nat_lit 0x1F85F⟩, ⟨nat_lit 0x1F888, nat_lit 0x1F88F⟩,
     ⟨nat_lit 0x1F8AE, nat_lit 0x1F8AF⟩, ⟨nat_lit 0x1F8BC, nat_lit 0x1F8BF⟩,
     ⟨nat_lit 0x1F8C2, nat_lit 0x1F8FF⟩, ⟨nat_lit 0x1FA54, nat_lit 0x1FA5F⟩,
     ⟨nat_lit 0x1FA6E, nat_lit 0x1FA6F⟩, ⟨nat_lit 0x1FA7D, nat_lit 0x1FA7F⟩,
     ⟨nat_lit 0x1FA8A, nat_lit 0x1FA8E⟩, ⟨nat_lit 0x1FAC7, nat_lit 0x1FACD⟩,
     ⟨nat_lit 0x1FADD, nat_lit 0x1FADE⟩, ⟨nat_lit 0x1FAEA, nat_lit 0x1FAEF⟩,
     ⟨nat_lit 0x1FAF9, nat_lit 0x1FAFF⟩, ⟨nat_lit 0x1FB93, nat_lit 0x1FB93⟩,
     ⟨nat_lit 0x1FBFA, nat_lit 0x1FFFF⟩, ⟨nat_lit 0x2A6E0, nat_lit 0x2A6FF⟩,
     ⟨nat_lit 0x2B73A, nat_lit 0x2B73F⟩, ⟨nat_lit 0x2B81E, nat_lit 0x2B81F⟩,
     ⟨nat_lit 0x2CEA2, nat_lit 0x2CEAF⟩, ⟨nat_lit 0x2EBE1, nat_lit 0x2EBEF⟩,
     ⟨nat_lit 0x2EE5E, nat_lit 0x2F7FF⟩, ⟨nat_lit 0x2FA1E, nat_lit 0x2FFFF⟩,
     ⟨nat_lit 0x3134B, nat_lit 0x3134F⟩, ⟨nat_lit 0x323B0, nat_lit 0xE0000⟩,
     ⟨nat_lit 0xE0002, nat_lit 0xE001F⟩, ⟨nat_lit 0xE0080, nat_lit 0xE00FF⟩,
     ⟨nat_lit 0xE01F0, nat_lit 0xEFFFF⟩, ⟨nat_lit 0xFFFFE, nat_lit 0xFFFFF⟩,
     ⟨nat_lit 0x10FFFE, nat_lit 0x10FFFF⟩]

/-- The code points of a category. -/
def set (c : GeneralCategory) : CodePointSet :=
  ⟨c.ranges⟩

end GeneralCategory

end EcmaRegex
