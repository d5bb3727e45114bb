/-!
# Simple case folding

The classes of code points that Unicode simple case folding (the `C` and `S` mappings of the
character database, version 16.0) makes equal: two code points are in one class when they fold
to the same code point.  Only classes of two or more members are listed; they are disjoint,
each is ascending, and no surrogate is in any of them.
-/

namespace EcmaRegex

namespace Unicode

set_option maxRecDepth 20000 in
/-- The simple case folding classes, each ascending. -/
def simpleFoldingClasses : List (List Nat) :=
  [[nat_lit 0x41, nat_lit 0x61], [nat_lit 0x42, nat_lit 0x62], [nat_lit 0x43, nat_lit 0x63],
   [nat_lit 0x44, nat_lit 0x64], [nat_lit 0x45, nat_lit 0x65], [nat_lit 0x46, nat_lit 0x66],
   [nat_lit 0x47, nat_lit 0x67], [nat_lit 0x48, nat_lit 0x68], [nat_lit 0x49, nat_lit 0x69],
   [nat_lit 0x4A, nat_lit 0x6A], [nat_lit 0x4B, nat_lit 0x6B, nat_lit 0x212A],
   [nat_lit 0x4C, nat_lit 0x6C], [nat_lit 0x4D, nat_lit 0x6D], [nat_lit 0x4E, nat_lit 0x6E],
   [nat_lit 0x4F, nat_lit 0x6F], [nat_lit 0x50, nat_lit 0x70], [nat_lit 0x51, nat_lit 0x71],
   [nat_lit 0x52, nat_lit 0x72], [nat_lit 0x53, nat_lit 0x73, nat_lit 0x17F],
   [nat_lit 0x54, nat_lit 0x74], [nat_lit 0x55, nat_lit 0x75], [nat_lit 0x56, nat_lit 0x76],
   [nat_lit 0x57, nat_lit 0x77], [nat_lit 0x58, nat_lit 0x78], [nat_lit 0x59, nat_lit 0x79],
   [nat_lit 0x5A, nat_lit 0x7A], [nat_lit 0xB5, nat_lit 0x39C, nat_lit 0x3BC],
   [nat_lit 0xC0, nat_lit 0xE0], [nat_lit 0xC1, nat_lit 0xE1], [nat_lit 0xC2, nat_lit 0xE2],
   [nat_lit 0xC3, nat_lit 0xE3], [nat_lit 0xC4, nat_lit 0xE4],
   [nat_lit 0xC5, nat_lit 0xE5, nat_lit 0x212B], [nat_lit 0xC6, nat_lit 0xE6],
   [nat_lit 0xC7, nat_lit 0xE7], [nat_lit 0xC8, nat_lit 0xE8], [nat_lit 0xC9, nat_lit 0xE9],
   [nat_lit 0xCA, nat_lit 0xEA], [nat_lit 0xCB, nat_lit 0xEB], [nat_lit 0xCC, nat_lit 0xEC],
   [nat_lit 0xCD, nat_lit 0xED], [nat_lit 0xCE, nat_lit 0xEE], [nat_lit 0xCF, nat_lit 0xEF],
   [nat_lit 0xD0, nat_lit 0xF0], [nat_lit 0xD1, nat_lit 0xF1], [nat_lit 0xD2, nat_lit 0xF2],
   [nat_lit 0xD3, nat_lit 0xF3], [nat_lit 0xD4, nat_lit 0xF4], [nat_lit 0xD5, nat_lit 0xF5],
   [nat_lit 0xD6, nat_lit 0xF6], [nat_lit 0xD8, nat_lit 0xF8], [nat_lit 0xD9, nat_lit 0xF9],
   [nat_lit 0xDA, nat_lit 0xFA], [nat_lit 0xDB, nat_lit 0xFB], [nat_lit 0xDC, nat_lit 0xFC],
   [nat_lit 0xDD, nat_lit 0xFD], [nat_lit 0xDE, nat_lit 0xFE], [nat_lit 0xDF, nat_lit 0x1E9E],
   [nat_lit 0xFF, nat_lit 0x178], [nat_lit 0x100, nat_lit 0x101], [nat_lit 0x102, nat_lit 0x103],
   [nat_lit 0x104, nat_lit 0x105], [nat_lit 0x106, nat_lit 0x107], [nat_lit 0x108, nat_lit 0x109],
   [nat_lit 0x10A, nat_lit 0x10B], [nat_lit 0x10C, nat_lit 0x10D], [nat_lit 0x10E, nat_lit 0x10F],
   [nat_lit 0x110, nat_lit 0x111], [nat_lit 0x112, nat_lit 0x113], [nat_lit 0x114, nat_lit 0x115],
   [nat_lit 0x116, nat_lit 0x117], [nat_lit 0x118, nat_lit 0x119], [nat_lit 0x11A, nat_lit 0x11B],
   [nat_lit 0x11C, nat_lit 0x11D], [nat_lit 0x11E, nat_lit 0x11F], [nat_lit 0x120, nat_lit 0x121],
   [nat_lit 0x122, nat_lit 0x123], [nat_lit 0x124, nat_lit 0x125], [nat_lit 0x126, nat_lit 0x127],
   [nat_lit 0x128, nat_lit 0x129], [nat_lit 0x12A, nat_lit 0x12B], [nat_lit 0x12C, nat_lit 0x12D],
   [nat_lit 0x12E, nat_lit 0x12F], [nat_lit 0x132, nat_lit 0x133], [nat_lit 0x134, nat_lit 0x135],
   [nat_lit 0x136, nat_lit 0x137], [nat_lit 0x139, nat_lit 0x13A], [nat_lit 0x13B, nat_lit 0x13C],
   [nat_lit 0x13D, nat_lit 0x13E], [nat_lit 0x13F, nat_lit 0x140], [nat_lit 0x141, nat_lit 0x142],
   [nat_lit 0x143, nat_lit 0x144], [nat_lit 0x145, nat_lit 0x146], [nat_lit 0x147, nat_lit 0x148],
   [nat_lit 0x14A, nat_lit 0x14B], [nat_lit 0x14C, nat_lit 0x14D], [nat_lit 0x14E, nat_lit 0x14F],
   [nat_lit 0x150, nat_lit 0x151], [nat_lit 0x152, nat_lit 0x153], [nat_lit 0x154, nat_lit 0x155],
   [nat_lit 0x156, nat_lit 0x157], [nat_lit 0x158, nat_lit 0x159], [nat_lit 0x15A, nat_lit 0x15B],
   [nat_lit 0x15C, nat_lit 0x15D], [nat_lit 0x15E, nat_lit 0x15F], [nat_lit 0x160, nat_lit 0x161],
   [nat_lit 0x162, nat_lit 0x163], [nat_lit 0x164, nat_lit 0x165], [nat_lit 0x166, nat_lit 0x167],
   [nat_lit 0x168, nat_lit 0x169], [nat_lit 0x16A, nat_lit 0x16B], [nat_lit 0x16C, nat_lit 0x16D],
   [nat_lit 0x16E, nat_lit 0x16F], [nat_lit 0x170, nat_lit 0x171], [nat_lit 0x172, nat_lit 0x173],
   [nat_lit 0x174, nat_lit 0x175], [nat_lit 0x176, nat_lit 0x177], [nat_lit 0x179, nat_lit 0x17A],
   [nat_lit 0x17B, nat_lit 0x17C], [nat_lit 0x17D, nat_lit 0x17E], [nat_lit 0x180, nat_lit 0x243],
   [nat_lit 0x181, nat_lit 0x253], [nat_lit 0x182, nat_lit 0x183], [nat_lit 0x184, nat_lit 0x185],
   [nat_lit 0x186, nat_lit 0x254], [nat_lit 0x187, nat_lit 0x188], [nat_lit 0x189, nat_lit 0x256],
   [nat_lit 0x18A, nat_lit 0x257], [nat_lit 0x18B, nat_lit 0x18C], [nat_lit 0x18E, nat_lit 0x1DD],
   [nat_lit 0x18F, nat_lit 0x259], [nat_lit 0x190, nat_lit 0x25B], [nat_lit 0x191, nat_lit 0x192],
   [nat_lit 0x193, nat_lit 0x260], [nat_lit 0x194, nat_lit 0x263], [nat_lit 0x195, nat_lit 0x1F6],
   [nat_lit 0x196, nat_lit 0x269], [nat_lit 0x197, nat_lit 0x268], [nat_lit 0x198, nat_lit 0x199],
   [nat_lit 0x19A, nat_lit 0x23D], [nat_lit 0x19B, nat_lit 0xA7DC], [nat_lit 0x19C, nat_lit 0x26F],
   [nat_lit 0x19D, nat_lit 0x272], [nat_lit 0x19E, nat_lit 0x220], [nat_lit 0x19F, nat_lit 0x275],
   [nat_lit 0x1A0, nat_lit 0x1A1], [nat_lit 0x1A2, nat_lit 0x1A3], [nat_lit 0x1A4, nat_lit 0x1A5],
   [nat_lit 0x1A6, nat_lit 0x280], [nat_lit 0x1A7, nat_lit 0x1A8], [nat_lit 0x1A9, nat_lit 0x283],
   [nat_lit 0x1AC, nat_lit 0x1AD], [nat_lit 0x1AE, nat_lit 0x288], [nat_lit 0x1AF, nat_lit 0x1B0],
   [nat_lit 0x1B1, nat_lit 0x28A], [nat_lit 0x1B2, nat_lit 0x28B], [nat_lit 0x1B3, nat_lit 0x1B4],
   [nat_lit 0x1B5, nat_lit 0x1B6], [nat_lit 0x1B7, nat_lit 0x292], [nat_lit 0x1B8, nat_lit 0x1B9],
   [nat_lit 0x1BC, nat_lit 0x1BD], [nat_lit 0x1BF, nat_lit 0x1F7],
   [nat_lit 0x1C4, nat_lit 0x1C5, nat_lit 0x1C6], [nat_lit 0x1C7, nat_lit 0x1C8, nat_lit 0x1C9],
   [nat_lit 0x1CA, nat_lit 0x1CB, nat_lit 0x1CC], [nat_lit 0x1CD, nat_lit 0x1CE],
   [nat_lit 0x1CF, nat_lit 0x1D0], [nat_lit 0x1D1, nat_lit 0x1D2], [nat_lit 0x1D3, nat_lit 0x1D4],
   [nat_lit 0x1D5, nat_lit 0x1D6], [nat_lit 0x1D7, nat_lit 0x1D8], [nat_lit 0x1D9, nat_lit 0x1DA],
   [nat_lit 0x1DB, nat_lit 0x1DC], [nat_lit 0x1DE, nat_lit 0x1DF], [nat_lit 0x1E0, nat_lit 0x1E1],
   [nat_lit 0x1E2, nat_lit 0x1E3], [nat_lit 0x1E4, nat_lit 0x1E5], [nat_lit 0x1E6, nat_lit 0x1E7],
   [nat_lit 0x1E8, nat_lit 0x1E9], [nat_lit 0x1EA, nat_lit 0x1EB], [nat_lit 0x1EC, nat_lit 0x1ED],
   [nat_lit 0x1EE, nat_lit 0x1EF], [nat_lit 0x1F1, nat_lit 0x1F2, nat_lit 0x1F3],
   [nat_lit 0x1F4, nat_lit 0x1F5], [nat_lit 0x1F8, nat_lit 0x1F9], [nat_lit 0x1FA, nat_lit 0x1FB],
   [nat_lit 0x1FC, nat_lit 0x1FD], [nat_lit 0x1FE, nat_lit 0x1FF], [nat_lit 0x200, nat_lit 0x201],
   [nat_lit 0x202, nat_lit 0x203], [nat_lit 0x204, nat_lit 0x205], [nat_lit 0x206, nat_lit 0x207],
   [nat_lit 0x208, nat_lit 0x209], [nat_lit 0x20A, nat_lit 0x20B], [nat_lit 0x20C, nat_lit 0x20D],
   [nat_lit 0x20E, nat_lit 0x20F], [nat_lit 0x210, nat_lit 0x211], [nat_lit 0x212, nat_lit 0x213],
   [nat_lit 0x214, nat_lit 0x215], [nat_lit 0x216, nat_lit 0x217], [nat_lit 0x218, nat_lit 0x219],
   [nat_lit 0x21A, nat_lit 0x21B], [nat_lit 0x21C, nat_lit 0x21D], [nat_lit 0x21E, nat_lit 0x21F],
   [nat_lit 0x222, nat_lit 0x223], [nat_lit 0x224, nat_lit 0x225], [nat_lit 0x226, nat_lit 0x227],
   [nat_lit 0x228, nat_lit 0x229], [nat_lit 0x22A, nat_lit 0x22B], [nat_lit 0x22C, nat_lit 0x22D],
   [nat_lit 0x22E, nat_lit 0x22F], [nat_lit 0x230, nat_lit 0x231], [nat_lit 0x232, nat_lit 0x233],
   [nat_lit 0x23A, nat_lit 0x2C65], [nat_lit 0x23B, nat_lit 0x23C],
   [nat_lit 0x23E, nat_lit 0x2C66], [nat_lit 0x23F, nat_lit 0x2C7E],
   [nat_lit 0x240, nat_lit 0x2C7F], [nat_lit 0x241, nat_lit 0x242], [nat_lit 0x244, nat_lit 0x289],
   [nat_lit 0x245, nat_lit 0x28C], [nat_lit 0x246, nat_lit 0x247], [nat_lit 0x248, nat_lit 0x249],
   [nat_lit 0x24A, nat_lit 0x24B], [nat_lit 0x24C, nat_lit 0x24D], [nat_lit 0x24E, nat_lit 0x24F],
   [nat_lit 0x250, nat_lit 0x2C6F], [nat_lit 0x251, nat_lit 0x2C6D],
   [nat_lit 0x252, nat_lit 0x2C70], [nat_lit 0x25C, nat_lit 0xA7AB],
   [nat_lit 0x261, nat_lit 0xA7AC], [nat_lit 0x264, nat_lit 0xA7CB],
   [nat_lit 0x265, nat_lit 0xA78D], [nat_lit 0x266, nat_lit 0xA7AA],
   [nat_lit 0x26A, nat_lit 0xA7AE], [nat_lit 0x26B, nat_lit 0x2C62],
   [nat_lit 0x26C, nat_lit 0xA7AD], [nat_lit 0x271, nat_lit 0x2C6E],
   [nat_lit 0x27D, nat_lit 0x2C64], [nat_lit 0x282, nat_lit 0xA7C5],
   [nat_lit 0x287, nat_lit 0xA7B1], [nat_lit 0x29D, nat_lit 0xA7B2],
   [nat_lit 0x29E, nat_lit 0xA7B0], [nat_lit 0x345, nat_lit 0x399, nat_lit 0x3B9, nat_lit 0x1FBE],
   [nat_lit 0x370, nat_lit 0x371], [nat_lit 0x372, nat_lit 0x373], [nat_lit 0x376, nat_lit 0x377],
   [nat_lit 0x37B, nat_lit 0x3FD], [nat_lit 0x37C, nat_lit 0x3FE], [nat_lit 0x37D, nat_lit 0x3FF],
   [nat_lit 0x37F, nat_lit 0x3F3], [nat_lit 0x386, nat_lit 0x3AC], [nat_lit 0x388, nat_lit 0x3AD],
   [nat_lit 0x389, nat_lit 0x3AE], [nat_lit 0x38A, nat_lit 0x3AF], [nat_lit 0x38C, nat_lit 0x3CC],
   [nat_lit 0x38E, nat_lit 0x3CD], [nat_lit 0x38F, nat_lit 0x3CE], [nat_lit 0x390, nat_lit 0x1FD3],
   [nat_lit 0x391, nat_lit 0x3B1], [nat_lit 0x392, nat_lit 0x3B2, nat_lit 0x3D0],
   [nat_lit 0x393, nat_lit 0x3B3], [nat_lit 0x394, nat_lit 0x3B4],
   [nat_lit 0x395, nat_lit 0x3B5, nat_lit 0x3F5], [nat_lit 0x396, nat_lit 0x3B6],
   [nat_lit 0x397, nat_lit 0x3B7], [nat_lit 0x398, nat_lit 0x3B8, nat_lit 0x3D1, nat_lit 0x3F4],
   [nat_lit 0x39A, nat_lit 0x3BA, nat_lit 0x3F0], [nat_lit 0x39B, nat_lit 0x3BB],
   [nat_lit 0x39D, nat_lit 0x3BD], [nat_lit 0x39E, nat_lit 0x3BE], [nat_lit 0x39F, nat_lit 0x3BF],
   [nat_lit 0x3A0, nat_lit 0x3C0, nat_lit 0x3D6], [nat_lit 0x3A1, nat_lit 0x3C1, nat_lit 0x3F1],
   [nat_lit 0x3A3, nat_lit 0x3C2, nat_lit 0x3C3], [nat_lit 0x3A4, nat_lit 0x3C4],
   [nat_lit 0x3A5, nat_lit 0x3C5], [nat_lit 0x3A6, nat_lit 0x3C6, nat_lit 0x3D5],
   [nat_lit 0x3A7, nat_lit 0x3C7], [nat_lit 0x3A8, nat_lit 0x3C8],
   [nat_lit 0x3A9, nat_lit 0x3C9, nat_lit 0x2126], [nat_lit 0x3AA, nat_lit 0x3CA],
   [nat_lit 0x3AB, nat_lit 0x3CB], [nat_lit 0x3B0, nat_lit 0x1FE3], [nat_lit 0x3CF, nat_lit 0x3D7],
   [nat_lit 0x3D8, nat_lit 0x3D9], [nat_lit 0x3DA, nat_lit 0x3DB], [nat_lit 0x3DC, nat_lit 0x3DD],
   [nat_lit 0x3DE, nat_lit 0x3DF], [nat_lit 0x3E0, nat_lit 0x3E1], [nat_lit 0x3E2, nat_lit 0x3E3],
   [nat_lit 0x3E4, nat_lit 0x3E5], [nat_lit 0x3E6, nat_lit 0x3E7], [nat_lit 0x3E8, nat_lit 0x3E9],
   [nat_lit 0x3EA, nat_lit 0x3EB], [nat_lit 0x3EC, nat_lit 0x3ED], [nat_lit 0x3EE, nat_lit 0x3EF],
   [nat_lit 0x3F2, nat_lit 0x3F9], [nat_lit 0x3F7, nat_lit 0x3F8], [nat_lit 0x3FA, nat_lit 0x3FB],
   [nat_lit 0x400, nat_lit 0x450], [nat_lit 0x401, nat_lit 0x451], [nat_lit 0x402, nat_lit 0x452],
   [nat_lit 0x403, nat_lit 0x453], [nat_lit 0x404, nat_lit 0x454], [nat_lit 0x405, nat_lit 0x455],
   [nat_lit 0x406, nat_lit 0x456], [nat_lit 0x407, nat_lit 0x457], [nat_lit 0x408, nat_lit 0x458],
   [nat_lit 0x409, nat_lit 0x459], [nat_lit 0x40A, nat_lit 0x45A], [nat_lit 0x40B, nat_lit 0x45B],
   [nat_lit 0x40C, nat_lit 0x45C], [nat_lit 0x40D, nat_lit 0x45D], [nat_lit 0x40E, nat_lit 0x45E],
   [nat_lit 0x40F, nat_lit 0x45F], [nat_lit 0x410, nat_lit 0x430], [nat_lit 0x411, nat_lit 0x431],
   [nat_lit 0x412, nat_lit 0x432, nat_lit 0x1C80], [nat_lit 0x413, nat_lit 0x433],
   [nat_lit 0x414, nat_lit 0x434, nat_lit 0x1C81], [nat_lit 0x415, nat_lit 0x435],
   [nat_lit 0x416, nat_lit 0x436], [nat_lit 0x417, nat_lit 0x437], [nat_lit 0x418, nat_lit 0x438],
   [nat_lit 0x419, nat_lit 0x439], [nat_lit 0x41A, nat_lit 0x43A], [nat_lit 0x41B, nat_lit 0x43B],
   [nat_lit 0x41C, nat_lit 0x43C], [nat_lit 0x41D, nat_lit 0x43D],
   [nat_lit 0x41E, nat_lit 0x43E, nat_lit 0x1C82], [nat_lit 0x41F, nat_lit 0x43F],
   [nat_lit 0x420, nat_lit 0x440], [nat_lit 0x421, nat_lit 0x441, nat_lit 0x1C83],
   [nat_lit 0x422, nat_lit 0x442, nat_lit 0x1C84, nat_lit 0x1C85], [nat_lit 0x423, nat_lit 0x443],
   [nat_lit 0x424, nat_lit 0x444], [nat_lit 0x425, nat_lit 0x445], [nat_lit 0x426, nat_lit 0x446],
   [nat_lit 0x427, nat_lit 0x447], [nat_lit 0x428, nat_lit 0x448], [nat_lit 0x429, nat_lit 0x449],
   [nat_lit 0x42A, nat_lit 0x44A, nat_lit 0x1C86], [nat_lit 0x42B, nat_lit 0x44B],
   [nat_lit 0x42C, nat_lit 0x44C], [nat_lit 0x42D, nat_lit 0x44D], [nat_lit 0x42E, nat_lit 0x44E],
   [nat_lit 0x42F, nat_lit 0x44F], [nat_lit 0x460, nat_lit 0x461],
   [nat_lit 0x462, nat_lit 0x463, nat_lit 0x1C87], [nat_lit 0x464, nat_lit 0x465],
   [nat_lit 0x466, nat_lit 0x467], [nat_lit 0x468, nat_lit 0x469], [nat_lit 0x46A, nat_lit 0x46B],
   [nat_lit 0x46C, nat_lit 0x46D], [nat_lit 0x46E, nat_lit 0x46F], [nat_lit 0x470, nat_lit 0x471],
   [nat_lit 0x472, nat_lit 0x473], [nat_lit 0x474, nat_lit 0x475], [nat_lit 0x476, nat_lit 0x477],
   [nat_lit 0x478, nat_lit 0x479], [nat_lit 0x47A, nat_lit 0x47B], [nat_lit 0x47C, nat_lit 0x47D],
   [nat_lit 0x47E, nat_lit 0x47F], [nat_lit 0x480, nat_lit 0x481], [nat_lit 0x48A, nat_lit 0x48B],
   [nat_lit 0x48C, nat_lit 0x48D], [nat_lit 0x48E, nat_lit 0x48F], [nat_lit 0x490, nat_lit 0x491],
   [nat_lit 0x492, nat_lit 0x493], [nat_lit 0x494, nat_lit 0x495], [nat_lit 0x496, nat_lit 0x497],
   [nat_lit 0x498, nat_lit 0x499], [nat_lit 0x49A, nat_lit 0x49B], [nat_lit 0x49C, nat_lit 0x49D],
   [nat_lit 0x49E, nat_lit 0x49F], [nat_lit 0x4A0, nat_lit 0x4A1], [nat_lit 0x4A2, nat_lit 0x4A3],
   [nat_lit 0x4A4, nat_lit 0x4A5], [nat_lit 0x4A6, nat_lit 0x4A7], [nat_lit 0x4A8, nat_lit 0x4A9],
   [nat_lit 0x4AA, nat_lit 0x4AB], [nat_lit 0x4AC, nat_lit 0x4AD], [nat_lit 0x4AE, nat_lit 0x4AF],
   [nat_lit 0x4B0, nat_lit 0x4B1], [nat_lit 0x4B2, nat_lit 0x4B3], [nat_lit 0x4B4, nat_lit 0x4B5],
   [nat_lit 0x4B6, nat_lit 0x4B7], [nat_lit 0x4B8, nat_lit 0x4B9], [nat_lit 0x4BA, nat_lit 0x4BB],
   [nat_lit 0x4BC, nat_lit 0x4BD], [nat_lit 0x4BE, nat_lit 0x4BF], [nat_lit 0x4C0, nat_lit 0x4CF],
   [nat_lit 0x4C1, nat_lit 0x4C2], [nat_lit 0x4C3, nat_lit 0x4C4], [nat_lit 0x4C5, nat_lit 0x4C6],
   [nat_lit 0x4C7, nat_lit 0x4C8], [nat_lit 0x4C9, nat_lit 0x4CA], [nat_lit 0x4CB, nat_lit 0x4CC],
   [nat_lit 0x4CD, nat_lit 0x4CE], [nat_lit 0x4D0, nat_lit 0x4D1], [nat_lit 0x4D2, nat_lit 0x4D3],
   [nat_lit 0x4D4, nat_lit 0x4D5], [nat_lit 0x4D6, nat_lit 0x4D7], [nat_lit 0x4D8, nat_lit 0x4D9],
   [nat_lit 0x4DA, nat_lit 0x4DB], [nat_lit 0x4DC, nat_lit 0x4DD], [nat_lit 0x4DE, nat_lit 0x4DF],
   [nat_lit 0x4E0, nat_lit 0x4E1], [nat_lit 0x4E2, nat_lit 0x4E3], [nat_lit 0x4E4, nat_lit 0x4E5],
   [nat_lit 0x4E6, nat_lit 0x4E7], [nat_lit 0x4E8, nat_lit 0x4E9], [nat_lit 0x4EA, nat_lit 0x4EB],
   [nat_lit 0x4EC, nat_lit 0x4ED], [nat_lit 0x4EE, nat_lit 0x4EF], [nat_lit 0x4F0, nat_lit 0x4F1],
   [nat_lit 0x4F2, nat_lit 0x4F3], [nat_lit 0x4F4, nat_lit 0x4F5], [nat_lit 0x4F6, nat_lit 0x4F7],
   [nat_lit 0x4F8, nat_lit 0x4F9], [nat_lit 0x4FA, nat_lit 0x4FB], [nat_lit 0x4FC, nat_lit 0x4FD],
   [nat_lit 0x4FE, nat_lit 0x4FF], [nat_lit 0x500, nat_lit 0x501], [nat_lit 0x502, nat_lit 0x503],
   [nat_lit 0x504, nat_lit 0x505], [nat_lit 0x506, nat_lit 0x507], [nat_lit 0x508, nat_lit 0x509],
   [nat_lit 0x50A, nat_lit 0x50B], [nat_lit 0x50C, nat_lit 0x50D], [nat_lit 0x50E, nat_lit 0x50F],
   [nat_lit 0x510, nat_lit 0x511], [nat_lit 0x512, nat_lit 0x513], [nat_lit 0x514, nat_lit 0x515],
   [nat_lit 0x516, nat_lit 0x517], [nat_lit 0x518, nat_lit 0x519], [nat_lit 0x51A, nat_lit 0x51B],
   [nat_lit 0x51C, nat_lit 0x51D], [nat_lit 0x51E, nat_lit 0x51F], [nat_lit 0x520, nat_lit 0x521],
   [nat_lit 0x522, nat_lit 0x523], [nat_lit 0x524, nat_lit 0x525], [nat_lit 0x526, nat_lit 0x527],
   [nat_lit 0x528, nat_lit 0x529], [nat_lit 0x52A, nat_lit 0x52B], [nat_lit 0x52C, nat_lit 0x52D],
   [nat_lit 0x52E, nat_lit 0x52F], [nat_lit 0x531, nat_lit 0x561], [nat_lit 0x532, nat_lit 0x562],
   [nat_lit 0x533, nat_lit 0x563], [nat_lit 0x534, nat_lit 0x564], [nat_lit 0x535, nat_lit 0x565],
   [nat_lit 0x536, nat_lit 0x566], [nat_lit 0x537, nat_lit 0x567], [nat_lit 0x538, nat_lit 0x568],
   [nat_lit 0x539, nat_lit 0x569], [nat_lit 0x53A, nat_lit 0x56A], [nat_lit 0x53B, nat_lit 0x56B],
   [nat_lit 0x53C, nat_lit 0x56C], [nat_lit 0x53D, nat_lit 0x56D], [nat_lit 0x53E, nat_lit 0x56E],
   [nat_lit 0x53F, nat_lit 0x56F], [nat_lit 0x540, nat_lit 0x570], [nat_lit 0x541, nat_lit 0x571],
   [nat_lit 0x542, nat_lit 0x572], [nat_lit 0x543, nat_lit 0x573], [nat_lit 0x544, nat_lit 0x574],
   [nat_lit 0x545, nat_lit 0x575], [nat_lit 0x546, nat_lit 0x576], [nat_lit 0x547, nat_lit 0x577],
   [nat_lit 0x548, nat_lit 0x578], [nat_lit 0x549, nat_lit 0x579], [nat_lit 0x54A, nat_lit 0x57A],
   [nat_lit 0x54B, nat_lit 0x57B], [nat_lit 0x54C, nat_lit 0x57C], [nat_lit 0x54D, nat_lit 0x57D],
   [nat_lit 0x54E, nat_lit 0x57E], [nat_lit 0x54F, nat_lit 0x57F], [nat_lit 0x550, nat_lit 0x580],
   [nat_lit 0x551, nat_lit 0x581], [nat_lit 0x552, nat_lit 0x582], [nat_lit 0x553, nat_lit 0x583],
   [nat_lit 0x554, nat_lit 0x584], [nat_lit 0x555, nat_lit 0x585], [nat_lit 0x556, nat_lit 0x586],
   [nat_lit 0x10A0, nat_lit 0x2D00], [nat_lit 0x10A1, nat_lit 0x2D01],
   [nat_lit 0x10A2, nat_lit 0x2D02], [nat_lit 0x10A3, nat_lit 0x2D03],
   [nat_lit 0x10A4, nat_lit 0x2D04], [nat_lit 0x10A5, nat_lit 0x2D05],
   [nat_lit 0x10A6, nat_lit 0x2D06], [nat_lit 0x10A7, nat_lit 0x2D07],
   [nat_lit 0x10A8, nat_lit 0x2D08], [nat_lit 0x10A9, nat_lit 0x2D09],
   [nat_lit 0x10AA, nat_lit 0x2D0A], [nat_lit 0x10AB, nat_lit 0x2D0B],
   [nat_lit 0x10AC, nat_lit 0x2D0C], [nat_lit 0x10AD, nat_lit 0x2D0D],
   [nat_lit 0x10AE, nat_lit 0x2D0E], [nat_lit 0x10AF, nat_lit 0x2D0F],
   [nat_lit 0x10B0, nat_lit 0x2D10], [nat_lit 0x10B1, nat_lit 0x2D11],
   [nat_lit 0x10B2, nat_lit 0x2D12], [nat_lit 0x10B3, nat_lit 0x2D13],
   [nat_lit 0x10B4, nat_lit 0x2D14], [nat_lit 0x10B5, nat_lit 0x2D15],
   [nat_lit 0x10B6, nat_lit 0x2D16], [nat_lit 0x10B7, nat_lit 0x2D17],
   [nat_lit 0x10B8, nat_lit 0x2D18], [nat_lit 0x10B9, nat_lit 0x2D19],
   [nat_lit 0x10BA, nat_lit 0x2D1A], [nat_lit 0x10BB, nat_lit 0x2D1B],
   [nat_lit 0x10BC, nat_lit 0x2D1C], [nat_lit 0x10BD, nat_lit 0x2D1D],
   [nat_lit 0x10BE, nat_lit 0x2D1E], [nat_lit 0x10BF, nat_lit 0x2D1F],
   [nat_lit 0x10C0, nat_lit 0x2D20], [nat_lit 0x10C1, nat_lit 0x2D21],
   [nat_lit 0x10C2, nat_lit 0x2D22], [nat_lit 0x10C3, nat_lit 0x2D23],
   [nat_lit 0x10C4, nat_lit 0x2D24], [nat_lit 0x10C5, nat_lit 0x2D25],
   [nat_lit 0x10C7, nat_lit 0x2D27], [nat_lit 0x10CD, nat_lit 0x2D2D],
   [nat_lit 0x10D0, nat_lit 0x1C90], [nat_lit 0x10D1, nat_lit 0x1C91],
   [nat_lit 0x10D2, nat_lit 0x1C92], [nat_lit 0x10D3, nat_lit 0x1C93],
   [nat_lit 0x10D4, nat_lit 0x1C94], [nat_lit 0x10D5, nat_lit 0x1C95],
   [nat_lit 0x10D6, nat_lit 0x1C96], [nat_lit 0x10D7, nat_lit 0x1C97],
   [nat_lit 0x10D8, nat_lit 0x1C98], [nat_lit 0x10D9, nat_lit 0x1C99],
   [nat_lit 0x10DA, nat_lit 0x1C9A], [nat_lit 0x10DB, nat_lit 0x1C9B],
   [nat_lit 0x10DC, nat_lit 0x1C9C], [nat_lit 0x10DD, nat_lit 0x1C9D],
   [nat_lit 0x10DE, nat_lit 0x1C9E], [nat_lit 0x10DF, nat_lit 0x1C9F],
   [nat_lit 0x10E0, nat_lit 0x1CA0], [nat_lit 0x10E1, nat_lit 0x1CA1],
   [nat_lit 0x10E2, nat_lit 0x1CA2], [nat_lit 0x10E3, nat_lit 0x1CA3],
   [nat_lit 0x10E4, nat_lit 0x1CA4], [nat_lit 0x10E5, nat_lit 0x1CA5],
   [nat_lit 0x10E6, nat_lit 0x1CA6], [nat_lit 0x10E7, nat_lit 0x1CA7],
   [nat_lit 0x10E8, nat_lit 0x1CA8], [nat_lit 0x10E9, nat_lit 0x1CA9],
   [nat_lit 0x10EA, nat_lit 0x1CAA], [nat_lit 0x10EB, nat_lit 0x1CAB],
   [nat_lit 0x10EC, nat_lit 0x1CAC], [nat_lit 0x10ED, nat_lit 0x1CAD],
   [nat_lit 0x10EE, nat_lit 0x1CAE], [nat_lit 0x10EF, nat_lit 0x1CAF],
   [nat_lit 0x10F0, nat_lit 0x1CB0], [nat_lit 0x10F1, nat_lit 0x1CB1],
   [nat_lit 0x10F2, nat_lit 0x1CB2], [nat_lit 0x10F3, nat_lit 0x1CB3],
   [nat_lit 0x10F4, nat_lit 0x1CB4], [nat_lit 0x10F5, nat_lit 0x1CB5],
   [nat_lit 0x10F6, nat_lit 0x1CB6], [nat_lit 0x10F7, nat_lit 0x1CB7],
   [nat_lit 0x10F8, nat_lit 0x1CB8], [nat_lit 0x10F9, nat_lit 0x1CB9],
   [nat_lit 0x10FA, nat_lit 0x1CBA], [nat_lit 0x10FD, nat_lit 0x1CBD],
   [nat_lit 0x10FE, nat_lit 0x1CBE], [nat_lit 0x10FF, nat_lit 0x1CBF],
   [nat_lit 0x13A0, nat_lit 0xAB70], [nat_lit 0x13A1, nat_lit 0xAB71],
   [nat_lit 0x13A2, nat_lit 0xAB72], [nat_lit 0x13A3, nat_lit 0xAB73],
   [nat_lit 0x13A4, nat_lit 0xAB74], [nat_lit 0x13A5, nat_lit 0xAB75],
   [nat_lit 0x13A6, nat_lit 0xAB76], [nat_lit 0x13A7, nat_lit 0xAB77],
   [nat_lit 0x13A8, nat_lit 0xAB78], [nat_lit 0x13A9, nat_lit 0xAB79],
   [nat_lit 0x13AA, nat_lit 0xAB7A], [nat_lit 0x13AB, nat_lit 0xAB7B],
   [nat_lit 0x13AC, nat_lit 0xAB7C], [nat_lit 0x13AD, nat_lit 0xAB7D],
   [nat_lit 0x13AE, nat_lit 0xAB7E], [nat_lit 0x13AF, nat_lit 0xAB7F],
   [nat_lit 0x13B0, nat_lit 0xAB80], [nat_lit 0x13B1, nat_lit 0xAB81],
   [nat_lit 0x13B2, nat_lit 0xAB82], [nat_lit 0x13B3, nat_lit 0xAB83],
   [nat_lit 0x13B4, nat_lit 0xAB84], [nat_lit 0x13B5, nat_lit 0xAB85],
   [nat_lit 0x13B6, nat_lit 0xAB86], [nat_lit 0x13B7, nat_lit 0xAB87],
   [nat_lit 0x13B8, nat_lit 0xAB88], [nat_lit 0x13B9, nat_lit 0xAB89],
   [nat_lit 0x13BA, nat_lit 0xAB8A], [nat_lit 0x13BB, nat_lit 0xAB8B],
   [nat_lit 0x13BC, nat_lit 0xAB8C], [nat_lit 0x13BD, nat_lit 0xAB8D],
   [nat_lit 0x13BE, nat_lit 0xAB8E], [nat_lit 0x13BF, nat_lit 0xAB8F],
   [nat_lit 0x13C0, nat_lit 0xAB90], [nat_lit 0x13C1, nat_lit 0xAB91],
   [nat_lit 0x13C2, nat_lit 0xAB92], [nat_lit 0x13C3, nat_lit 0xAB93],
   [nat_lit 0x13C4, nat_lit 0xAB94], [nat_lit 0x13C5, nat_lit 0xAB95],
   [nat_lit 0x13C6, nat_lit 0xAB96], [nat_lit 0x13C7, nat_lit 0xAB97],
   [nat_lit 0x13C8, nat_lit 0xAB98], [nat_lit 0x13C9, nat_lit 0xAB99],
   [nat_lit 0x13CA, nat_lit 0xAB9A], [nat_lit 0x13CB, nat_lit 0xAB9B],
   [nat_lit 0x13CC, nat_lit 0xAB9C], [nat_lit 0x13CD, nat_lit 0xAB9D],
   [nat_lit 0x13CE, nat_lit 0xAB9E], [nat_lit 0x13CF, nat_lit 0xAB9F],
   [nat_lit 0x13D0, nat_lit 0xABA0], [nat_lit 0x13D1, nat_lit 0xABA1],
   [nat_lit 0x13D2, nat_lit 0xABA2], [nat_lit 0x13D3, nat_lit 0xABA3],
   [nat_lit 0x13D4, nat_lit 0xABA4], [nat_lit 0x13D5, nat_lit 0xABA5],
   [nat_lit 0x13D6, nat_lit 0xABA6], [nat_lit 0x13D7, nat_lit 0xABA7],
   [nat_lit 0x13D8, nat_lit 0xABA8], [nat_lit 0x13D9, nat_lit 0xABA9],
   [nat_lit 0x13DA, nat_lit 0xABAA], [nat_lit 0x13DB, nat_lit 0xABAB],
   [nat_lit 0x13DC, nat_lit 0xABAC], [nat_lit 0x13DD, nat_lit 0xABAD],
   [nat_lit 0x13DE, nat_lit 0xABAE], [nat_lit 0x13DF, nat_lit 0xABAF],
   [nat_lit 0x13E0, nat_lit 0xABB0], [nat_lit 0x13E1, nat_lit 0xABB1],
   [nat_lit 0x13E2, nat_lit 0xABB2], [nat_lit 0x13E3, nat_lit 0xABB3],
   [nat_lit 0x13E4, nat_lit 0xABB4], [nat_lit 0x13E5, nat_lit 0xABB5],
   [nat_lit 0x13E6, nat_lit 0xABB6], [nat_lit 0x13E7, nat_lit 0xABB7],
   [nat_lit 0x13E8, nat_lit 0xABB8], [nat_lit 0x13E9, nat_lit 0xABB9],
   [nat_lit 0x13EA, nat_lit 0xABBA], [nat_lit 0x13EB, nat_lit 0xABBB],
   [nat_lit 0x13EC, nat_lit 0xABBC], [nat_lit 0x13ED, nat_lit 0xABBD],
   [nat_lit 0x13EE, nat_lit 0xABBE], [nat_lit 0x13EF, nat_lit 0xABBF],
   [nat_lit 0x13F0, nat_lit 0x13F8], [nat_lit 0x13F1, nat_lit 0x13F9],
   [nat_lit 0x13F2, nat_lit 0x13FA], [nat_lit 0x13F3, nat_lit 0x13FB],
   [nat_lit 0x13F4, nat_lit 0x13FC], [nat_lit 0x13F5, nat_lit 0x13FD],
   [nat_lit 0x1C88, nat_lit 0xA64A, nat_lit 0xA64B], [nat_lit 0x1C89, nat_lit 0x1C8A],
   [nat_lit 0x1D79, nat_lit 0xA77D], [nat_lit 0x1D7D, nat_lit 0x2C63],
   [nat_lit 0x1D8E, nat_lit 0xA7C6], [nat_lit 0x1E00, nat_lit 0x1E01],
   [nat_lit 0x1E02, nat_lit 0x1E03], [nat_lit 0x1E04, nat_lit 0x1E05],
   [nat_lit 0x1E06, nat_lit 0x1E07], [nat_lit 0x1E08, nat_lit 0x1E09],
   [nat_lit 0x1E0A, nat_lit 0x1E0B], [nat_lit 0x1E0C, nat_lit 0x1E0D],
   [nat_lit 0x1E0E, nat_lit 0x1E0F], [nat_lit 0x1E10, nat_lit 0x1E11],
   [nat_lit 0x1E12, nat_lit 0x1E13], [nat_lit 0x1E14, nat_lit 0x1E15],
   [nat_lit 0x1E16, nat_lit 0x1E17], [nat_lit 0x1E18, nat_lit 0x1E19],
   [nat_lit 0x1E1A, nat_lit 0x1E1B], [nat_lit 0x1E1C, nat_lit 0x1E1D],
   [nat_lit 0x1E1E, nat_lit 0x1E1F], [nat_lit 0x1E20, nat_lit 0x1E21],
   [nat_lit 0x1E22, nat_lit 0x1E23], [nat_lit 0x1E24, nat_lit 0x1E25],
   [nat_lit 0x1E26, nat_lit 0x1E27], [nat_lit 0x1E28, nat_lit 0x1E29],
   [nat_lit 0x1E2A, nat_lit 0x1E2B], [nat_lit 0x1E2C, nat_lit 0x1E2D],
   [nat_lit 0x1E2E, nat_lit 0x1E2F], [nat_lit 0x1E30, nat_lit 0x1E31],
   [nat_lit 0x1E32, nat_lit 0x1E33], [nat_lit 0x1E34, nat_lit 0x1E35],
   [nat_lit 0x1E36, nat_lit 0x1E37], [nat_lit 0x1E38, nat_lit 0x1E39],
   [nat_lit 0x1E3A, nat_lit 0x1E3B], [nat_lit 0x1E3C, nat_lit 0x1E3D],
   [nat_lit 0x1E3E, nat_lit 0x1E3F], [nat_lit 0x1E40, nat_lit 0x1E41],
   [nat_lit 0x1E42, nat_lit 0x1E43], [nat_lit 0x1E44, nat_lit 0x1E45],
   [nat_lit 0x1E46, nat_lit 0x1E47], [nat_lit 0x1E48, nat_lit 0x1E49],
   [nat_lit 0x1E4A, nat_lit 0x1E4B], [nat_lit 0x1E4C, nat_lit 0x1E4D],
   [nat_lit 0x1E4E, nat_lit 0x1E4F], [nat_lit 0x1E50, nat_lit 0x1E51],
   [nat_lit 0x1E52, nat_lit 0x1E53], [nat_lit 0x1E54, nat_lit 0x1E55],
   [nat_lit 0x1E56, nat_lit 0x1E57], [nat_lit 0x1E58, nat_lit 0x1E59],
   [nat_lit 0x1E5A, nat_lit 0x1E5B], [nat_lit 0x1E5C, nat_lit 0x1E5D],
   [nat_lit 0x1E5E, nat_lit 0x1E5F], [nat_lit 0x1E60, nat_lit 0x1E61, nat_lit 0x1E9B],
   [nat_lit 0x1E62, nat_lit 0x1E63], [nat_lit 0x1E64, nat_lit 0x1E65],
   [nat_lit 0x1E66, nat_lit 0x1E67], [nat_lit 0x1E68, nat_lit 0x1E69],
   [nat_lit 0x1E6A, nat_lit 0x1E6B], [nat_lit 0x1E6C, nat_lit 0x1E6D],
   [nat_lit 0x1E6E, nat_lit 0x1E6F], [nat_lit 0x1E70, nat_lit 0x1E71],
   [nat_lit 0x1E72, nat_lit 0x1E73], [nat_lit 0x1E74, nat_lit 0x1E75],
   [nat_lit 0x1E76, nat_lit 0x1E77], [nat_lit 0x1E78, nat_lit 0x1E79],
   [nat_lit 0x1E7A, nat_lit 0x1E7B], [nat_lit 0x1E7C, nat_lit 0x1E7D],
   [nat_lit 0x1E7E, nat_lit 0x1E7F], [nat_lit 0x1E80, nat_lit 0x1E81],
   [nat_lit 0x1E82, nat_lit 0x1E83], [nat_lit 0x1E84, nat_lit 0x1E85],
   [nat_lit 0x1E86, nat_lit 0x1E87], [nat_lit 0x1E88, nat_lit 0x1E89],
   [nat_lit 0x1E8A, nat_lit 0x1E8B], [nat_lit 0x1E8C, nat_lit 0x1E8D],
   [nat_lit 0x1E8E, nat_lit 0x1E8F], [nat_lit 0x1E90, nat_lit 0x1E91],
   [nat_lit 0x1E92, nat_lit 0x1E93], [nat_lit 0x1E94, nat_lit 0x1E95],
   [nat_lit 0x1EA0, nat_lit 0x1EA1], [nat_lit 0x1EA2, nat_lit 0x1EA3],
   [nat_lit 0x1EA4, nat_lit 0x1EA5], [nat_lit 0x1EA6, nat_lit 0x1EA7],
   [nat_lit 0x1EA8, nat_lit 0x1EA9], [nat_lit 0x1EAA, nat_lit 0x1EAB],
   [nat_lit 0x1EAC, nat_lit 0x1EAD], [nat_lit 0x1EAE, nat_lit 0x1EAF],
   [nat_lit 0x1EB0, nat_lit 0x1EB1], [nat_lit 0x1EB2, nat_lit 0x1EB3],
   [nat_lit 0x1EB4, nat_lit 0x1EB5], [nat_lit 0x1EB6, nat_lit 0x1EB7],
   [nat_lit 0x1EB8, nat_lit 0x1EB9], [nat_lit 0x1EBA, nat_lit 0x1EBB],
   [nat_lit 0x1EBC, nat_lit 0x1EBD], [nat_lit 0x1EBE, nat_lit 0x1EBF],
   [nat_lit 0x1EC0, nat_lit 0x1EC1], [nat_lit 0x1EC2, nat_lit 0x1EC3],
   [nat_lit 0x1EC4, nat_lit 0x1EC5], [nat_lit 0x1EC6, nat_lit 0x1EC7],
   [nat_lit 0x1EC8, nat_lit 0x1EC9], [nat_lit 0x1ECA, nat_lit 0x1ECB],
   [nat_lit 0x1ECC, nat_lit 0x1ECD], [nat_lit 0x1ECE, nat_lit 0x1ECF],
   [nat_lit 0x1ED0, nat_lit 0x1ED1], [nat_lit 0x1ED2, nat_lit 0x1ED3],
   [nat_lit 0x1ED4, nat_lit 0x1ED5], [nat_lit 0x1ED6, nat_lit 0x1ED7],
   [nat_lit 0x1ED8, nat_lit 0x1ED9], [nat_lit 0x1EDA, nat_lit 0x1EDB],
   [nat_lit 0x1EDC, nat_lit 0x1EDD], [nat_lit 0x1EDE, nat_lit 0x1EDF],
   [nat_lit 0x1EE0, nat_lit 0x1EE1], [nat_lit 0x1EE2, nat_lit 0x1EE3],
   [nat_lit 0x1EE4, nat_lit 0x1EE5], [nat_lit 0x1EE6, nat_lit 0x1EE7],
   [nat_lit 0x1EE8, nat_lit 0x1EE9], [nat_lit 0x1EEA, nat_lit 0x1EEB],
   [nat_lit 0x1EEC, nat_lit 0x1EED], [nat_lit 0x1EEE, nat_lit 0x1EEF],
   [nat_lit 0x1EF0, nat_lit 0x1EF1], [nat_lit 0x1EF2, nat_lit 0x1EF3],
   [nat_lit 0x1EF4, nat_lit 0x1EF5], [nat_lit 0x1EF6, nat_lit 0x1EF7],
   [nat_lit 0x1EF8, nat_lit 0x1EF9], [nat_lit 0x1EFA, nat_lit 0x1EFB],
   [nat_lit 0x1EFC, nat_lit 0x1EFD], [nat_lit 0x1EFE, nat_lit 0x1EFF],
   [nat_lit 0x1F00, nat_lit 0x1F08], [nat_lit 0x1F01, nat_lit 0x1F09],
   [nat_lit 0x1F02, nat_lit 0x1F0A], [nat_lit 0x1F03, nat_lit 0x1F0B],
   [nat_lit 0x1F04, nat_lit 0x1F0C], [nat_lit 0x1F05, nat_lit 0x1F0D],
   [nat_lit 0x1F06, nat_lit 0x1F0E], [nat_lit 0x1F07, nat_lit 0x1F0F],
   [nat_lit 0x1F10, nat_lit 0x1F18], [nat_lit 0x1F11, nat_lit 0x1F19],
   [nat_lit 0x1F12, nat_lit 0x1F1A], [nat_lit 0x1F13, nat_lit 0x1F1B],
   [nat_lit 0x1F14, nat_lit 0x1F1C], [nat_lit 0x1F15, nat_lit 0x1F1D],
   [nat_lit 0x1F20, nat_lit 0x1F28], [nat_lit 0x1F21, nat_lit 0x1F29],
   [nat_lit 0x1F22, nat_lit 0x1F2A], [nat_lit 0x1F23, nat_lit 0x1F2B],
   [nat_lit 0x1F24, nat_lit 0x1F2C], [nat_lit 0x1F25, nat_lit 0x1F2D],
   [nat_lit 0x1F26, nat_lit 0x1F2E], [nat_lit 0x1F27, nat_lit 0x1F2F],
   [nat_lit 0x1F30, nat_lit 0x1F38], [nat_lit 0x1F31, nat_lit 0x1F39],
   [nat_lit 0x1F32, nat_lit 0x1F3A], [nat_lit 0x1F33, nat_lit 0x1F3B],
   [nat_lit 0x1F34, nat_lit 0x1F3C], [nat_lit 0x1F35, nat_lit 0x1F3D],
   [nat_lit 0x1F36, nat_lit 0x1F3E], [nat_lit 0x1F37, nat_lit 0x1F3F],
   [nat_lit 0x1F40, nat_lit 0x1F48], [nat_lit 0x1F41, nat_lit 0x1F49],
   [nat_lit 0x1F42, nat_lit 0x1F4A], [nat_lit 0x1F43, nat_lit 0x1F4B],
   [nat_lit 0x1F44, nat_lit 0x1F4C], [nat_lit 0x1F45, nat_lit 0x1F4D],
   [nat_lit 0x1F51, nat_lit 0x1F59], [nat_lit 0x1F53, nat_lit 0x1F5B],
   [nat_lit 0x1F55, nat_lit 0x1F5D], [nat_lit 0x1F57, nat_lit 0x1F5F],
   [nat_lit 0x1F60, nat_lit 0x1F68], [nat_lit 0x1F61, nat_lit 0x1F69],
   [nat_lit 0x1F62, nat_lit 0x1F6A], [nat_lit 0x1F63, nat_lit 0x1F6B],
   [nat_lit 0x1F64, nat_lit 0x1F6C], [nat_lit 0x1F65, nat_lit 0x1F6D],
   [nat_lit 0x1F66, nat_lit 0x1F6E], [nat_lit 0x1F67, nat_lit 0x1F6F],
   [nat_lit 0x1F70, nat_lit 0x1FBA], [nat_lit 0x1F71, nat_lit 0x1FBB],
   [nat_lit 0x1F72, nat_lit 0x1FC8], [nat_lit 0x1F73, nat_lit 0x1FC9],
   [nat_lit 0x1F74, nat_lit 0x1FCA], [nat_lit 0x1F75, nat_lit 0x1FCB],
   [nat_lit 0x1F76, nat_lit 0x1FDA], [nat_lit 0x1F77, nat_lit 0x1FDB],
   [nat_lit 0x1F78, nat_lit 0x1FF8], [nat_lit 0x1F79, nat_lit 0x1FF9],
   [nat_lit 0x1F7A, nat_lit 0x1FEA], [nat_lit 0x1F7B, nat_lit 0x1FEB],
   [nat_lit 0x1F7C, nat_lit 0x1FFA], [nat_lit 0x1F7D, nat_lit 0x1FFB],
   [nat_lit 0x1F80, nat_lit 0x1F88], [nat_lit 0x1F81, nat_lit 0x1F89],
   [nat_lit 0x1F82, nat_lit 0x1F8A], [nat_lit 0x1F83, nat_lit 0x1F8B],
   [nat_lit 0x1F84, nat_lit 0x1F8C], [nat_lit 0x1F85, nat_lit 0x1F8D],
   [nat_lit 0x1F86, nat_lit 0x1F8E], [nat_lit 0x1F87, nat_lit 0x1F8F],
   [nat_lit 0x1F90, nat_lit 0x1F98], [nat_lit 0x1F91, nat_lit 0x1F99],
   [nat_lit 0x1F92, nat_lit 0x1F9A], [nat_lit 0x1F93, nat_lit 0x1F9B],
   [nat_lit 0x1F94, nat_lit 0x1F9C], [nat_lit 0x1F95, nat_lit 0x1F9D],
   [nat_lit 0x1F96, nat_lit 0x1F9E], [nat_lit 0x1F97, nat_lit 0x1F9F],
   [nat_lit 0x1FA0, nat_lit 0x1FA8], [nat_lit 0x1FA1, nat_lit 0x1FA9],
   [nat_lit 0x1FA2, nat_lit 0x1FAA], [nat_lit 0x1FA3, nat_lit 0x1FAB],
   [nat_lit 0x1FA4, nat_lit 0x1FAC], [nat_lit 0x1FA5, nat_lit 0x1FAD],
   [nat_lit 0x1FA6, nat_lit 0x1FAE], [nat_lit 0x1FA7, nat_lit 0x1FAF],
   [nat_lit 0x1FB0, nat_lit 0x1FB8], [nat_lit 0x1FB1, nat_lit 0x1FB9],
   [nat_lit 0x1FB3, nat_lit 0x1FBC], [nat_lit 0x1FC3, nat_lit 0x1FCC],
   [nat_lit 0x1FD0, nat_lit 0x1FD8], [nat_lit 0x1FD1, nat_lit 0x1FD9],
   [nat_lit 0x1FE0, nat_lit 0x1FE8], [nat_lit 0x1FE1, nat_lit 0x1FE9],
   [nat_lit 0x1FE5, nat_lit 0x1FEC], [nat_lit 0x1FF3, nat_lit 0x1FFC],
   [nat_lit 0x2132, nat_lit 0x214E], [nat_lit 0x2160, nat_lit 0x2170],
   [nat_lit 0x2161, nat_lit 0x2171], [nat_lit 0x2162, nat_lit 0x2172],
   [nat_lit 0x2163, nat_lit 0x2173], [nat_lit 0x2164, nat_lit 0x2174],
   [nat_lit 0x2165, nat_lit 0x2175], [nat_lit 0x2166, nat_lit 0x2176],
   [nat_lit 0x2167, nat_lit 0x2177], [nat_lit 0x2168, nat_lit 0x2178],
   [nat_lit 0x2169, nat_lit 0x2179], [nat_lit 0x216A, nat_lit 0x217A],
   [nat_lit 0x216B, nat_lit 0x217B], [nat_lit 0x216C, nat_lit 0x217C],
   [nat_lit 0x216D, nat_lit 0x217D], [nat_lit 0x216E, nat_lit 0x217E],
   [nat_lit 0x216F, nat_lit 0x217F], [nat_lit 0x2183, nat_lit 0x2184],
   [nat_lit 0x24B6, nat_lit 0x24D0], [nat_lit 0x24B7, nat_lit 0x24D1],
   [nat_lit 0x24B8, nat_lit 0x24D2], [nat_lit 0x24B9, nat_lit 0x24D3],
   [nat_lit 0x24BA, nat_lit 0x24D4], [nat_lit 0x24BB, nat_lit 0x24D5],
   [nat_lit 0x24BC, nat_lit 0x24D6], [nat_lit 0x24BD, nat_lit 0x24D7],
   [nat_lit 0x24BE, nat_lit 0x24D8], [nat_lit 0x24BF, nat_lit 0x24D9],
   [nat_lit 0x24C0, nat_lit 0x24DA], [nat_lit 0x24C1, nat_lit 0x24DB],
   [nat_lit 0x24C2, nat_lit 0x24DC], [nat_lit 0x24C3, nat_lit 0x24DD],
   [nat_lit 0x24C4, nat_lit 0x24DE], [nat_lit 0x24C5, nat_lit 0x24DF],
   [nat_lit 0x24C6, nat_lit 0x24E0], [nat_lit 0x24C7, nat_lit 0x24E1],
   [nat_lit 0x24C8, nat_lit 0x24E2], [nat_lit 0x24C9, nat_lit 0x24E3],
   [nat_lit 0x24CA, nat_lit 0x24E4], [nat_lit 0x24CB, nat_lit 0x24E5],
   [nat_lit 0x24CC, nat_lit 0x24E6], [nat_lit 0x24CD, nat_lit 0x24E7],
   [nat_lit 0x24CE, nat_lit 0x24E8], [nat_lit 0x24CF, nat_lit 0x24E9],
   [nat_lit 0x2C00, nat_lit 0x2C30], [nat_lit 0x2C01, nat_lit 0x2C31],
   [nat_lit 0x2C02, nat_lit 0x2C32], [nat_lit 0x2C03, nat_lit 0x2C33],
   [nat_lit 0x2C04, nat_lit 0x2C34], [nat_lit 0x2C05, nat_lit 0x2C35],
   [nat_lit 0x2C06, nat_lit 0x2C36], [nat_lit 0x2C07, nat_lit 0x2C37],
   [nat_lit 0x2C08, nat_lit 0x2C38], [nat_lit 0x2C09, nat_lit 0x2C39],
   [nat_lit 0x2C0A, nat_lit 0x2C3A], [nat_lit 0x2C0B, nat_lit 0x2C3B],
   [nat_lit 0x2C0C, nat_lit 0x2C3C], [nat_lit 0x2C0D, nat_lit 0x2C3D],
   [nat_lit 0x2C0E, nat_lit 0x2C3E], [nat_lit 0x2C0F, nat_lit 0x2C3F],
   [nat_lit 0x2C10, nat_lit 0x2C40], [nat_lit 0x2C11, nat_lit 0x2C41],
   [nat_lit 0x2C12, nat_lit 0x2C42], [nat_lit 0x2C13, nat_lit 0x2C43],
   [nat_lit 0x2C14, nat_lit 0x2C44], [nat_lit 0x2C15, nat_lit 0x2C45],
   [nat_lit 0x2C16, nat_lit 0x2C46], [nat_lit 0x2C17, nat_lit 0x2C47],
   [nat_lit 0x2C18, nat_lit 0x2C48], [nat_lit 0x2C19, nat_lit 0x2C49],
   [nat_lit 0x2C1A, nat_lit 0x2C4A], [nat_lit 0x2C1B, nat_lit 0x2C4B],
   [nat_lit 0x2C1C, nat_lit 0x2C4C], [nat_lit 0x2C1D, nat_lit 0x2C4D],
   [nat_lit 0x2C1E, nat_lit 0x2C4E], [nat_lit 0x2C1F, nat_lit 0x2C4F],
   [nat_lit 0x2C20, nat_lit 0x2C50], [nat_lit 0x2C21, nat_lit 0x2C51],
   [nat_lit 0x2C22, nat_lit 0x2C52], [nat_lit 0x2C23, nat_lit 0x2C53],
   [nat_lit 0x2C24, nat_lit 0x2C54], [nat_lit 0x2C25, nat_lit 0x2C55],
   [nat_lit 0x2C26, nat_lit 0x2C56], [nat_lit 0x2C27, nat_lit 0x2C57],
   [nat_lit 0x2C28, nat_lit 0x2C58], [nat_lit 0x2C29, nat_lit 0x2C59],
   [nat_lit 0x2C2A, nat_lit 0x2C5A], [nat_lit 0x2C2B, nat_lit 0x2C5B],
   [nat_lit 0x2C2C, nat_lit 0x2C5C], [nat_lit 0x2C2D, nat_lit 0x2C5D],
   [nat_lit 0x2C2E, nat_lit 0x2C5E], [nat_lit 0x2C2F, nat_lit 0x2C5F],
   [nat_lit 0x2C60, nat_lit 0x2C61], [nat_lit 0x2C67, nat_lit 0x2C68],
   [nat_lit 0x2C69, nat_lit 0x2C6A], [nat_lit 0x2C6B, nat_lit 0x2C6C],
   [nat_lit 0x2C72, nat_lit 0x2C73], [nat_lit 0x2C75, nat_lit 0x2C76],
   [nat_lit 0x2C80, nat_lit 0x2C81], [nat_lit 0x2C82, nat_lit 0x2C83],
   [nat_lit 0x2C84, nat_lit 0x2C85], [nat_lit 0x2C86, nat_lit 0x2C87],
   [nat_lit 0x2C88, nat_lit 0x2C89], [nat_lit 0x2C8A, nat_lit 0x2C8B],
   [nat_lit 0x2C8C, nat_lit 0x2C8D], [nat_lit 0x2C8E, nat_lit 0x2C8F],
   [nat_lit 0x2C90, nat_lit 0x2C91], [nat_lit 0x2C92, nat_lit 0x2C93],
   [nat_lit 0x2C94, nat_lit 0x2C95], [nat_lit 0x2C96, nat_lit 0x2C97],
   [nat_lit 0x2C98, nat_lit 0x2C99], [nat_lit 0x2C9A, nat_lit 0x2C9B],
   [nat_lit 0x2C9C, nat_lit 0x2C9D], [nat_lit 0x2C9E, nat_lit 0x2C9F],
   [nat_lit 0x2CA0, nat_lit 0x2CA1], [nat_lit 0x2CA2, nat_lit 0x2CA3],
   [nat_lit 0x2CA4, nat_lit 0x2CA5], [nat_lit 0x2CA6, nat_lit 0x2CA7],
   [nat_lit 0x2CA8, nat_lit 0x2CA9], [nat_lit 0x2CAA, nat_lit 0x2CAB],
   [nat_lit 0x2CAC, nat_lit 0x2CAD], [nat_lit 0x2CAE, nat_lit 0x2CAF],
   [nat_lit 0x2CB0, nat_lit 0x2CB1], [nat_lit 0x2CB2, nat_lit 0x2CB3],
   [nat_lit 0x2CB4, nat_lit 0x2CB5], [nat_lit 0x2CB6, nat_lit 0x2CB7],
   [nat_lit 0x2CB8, nat_lit 0x2CB9], [nat_lit 0x2CBA, nat_lit 0x2CBB],
   [nat_lit 0x2CBC, nat_lit 0x2CBD], [nat_lit 0x2CBE, nat_lit 0x2CBF],
   [nat_lit 0x2CC0, nat_lit 0x2CC1], [nat_lit 0x2CC2, nat_lit 0x2CC3],
   [nat_lit 0x2CC4, nat_lit 0x2CC5], [nat_lit 0x2CC6, nat_lit 0x2CC7],
   [nat_lit 0x2CC8, nat_lit 0x2CC9], [nat_lit 0x2CCA, nat_lit 0x2CCB],
   [nat_lit 0x2CCC, nat_lit 0x2CCD], [nat_lit 0x2CCE, nat_lit 0x2CCF],
   [nat_lit 0x2CD0, nat_lit 0x2CD1], [nat_lit 0x2CD2, nat_lit 0x2CD3],
   [nat_lit 0x2CD4, nat_lit 0x2CD5], [nat_lit 0x2CD6, nat_lit 0x2CD7],
   [nat_lit 0x2CD8, nat_lit 0x2CD9], [nat_lit 0x2CDA, nat_lit 0x2CDB],
   [nat_lit 0x2CDC, nat_lit 0x2CDD], [nat_lit 0x2CDE, nat_lit 0x2CDF],
   [nat_lit 0x2CE0, nat_lit 0x2CE1], [nat_lit 0x2CE2, nat_lit 0x2CE3],
   [nat_lit 0x2CEB, nat_lit 0x2CEC], [nat_lit 0x2CED, nat_lit 0x2CEE],
   [nat_lit 0x2CF2, nat_lit 0x2CF3], [nat_lit 0xA640, nat_lit 0xA641],
   [nat_lit 0xA642, nat_lit 0xA643], [nat_lit 0xA644, nat_lit 0xA645],
   [nat_lit 0xA646, nat_lit 0xA647], [nat_lit 0xA648, nat_lit 0xA649],
   [nat_lit 0xA64C, nat_lit 0xA64D], [nat_lit 0xA64E, nat_lit 0xA64F],
   [nat_lit 0xA650, nat_lit 0xA651], [nat_lit 0xA652, nat_lit 0xA653],
   [nat_lit 0xA654, nat_lit 0xA655], [nat_lit 0xA656, nat_lit 0xA657],
   [nat_lit 0xA658, nat_lit 0xA659], [nat_lit 0xA65A, nat_lit 0xA65B],
   [nat_lit 0xA65C, nat_lit 0xA65D], [nat_lit 0xA65E, nat_lit 0xA65F],
   [nat_lit 0xA660, nat_lit 0xA661], [nat_lit 0xA662, nat_lit 0xA663],
   [nat_lit 0xA664, nat_lit 0xA665], [nat_lit 0xA666, nat_lit 0xA667],
   [nat_lit 0xA668, nat_lit 0xA669], [nat_lit 0xA66A, nat_lit 0xA66B],
   [nat_lit 0xA66C, nat_lit 0xA66D], [nat_lit 0xA680, nat_lit 0xA681],
   [nat_lit 0xA682, nat_lit 0xA683], [nat_lit 0xA684, nat_lit 0xA685],
   [nat_lit 0xA686, nat_lit 0xA687], [nat_lit 0xA688, nat_lit 0xA689],
   [nat_lit 0xA68A, nat_lit 0xA68B], [nat_lit 0xA68C, nat_lit 0xA68D],
   [nat_lit 0xA68E, nat_lit 0xA68F], [nat_lit 0xA690, nat_lit 0xA691],
   [nat_lit 0xA692, nat_lit 0xA693], [nat_lit 0xA694, nat_lit 0xA695],
   [nat_lit 0xA696, nat_lit 0xA697], [nat_lit 0xA698, nat_lit 0xA699],
   [nat_lit 0xA69A, nat_lit 0xA69B], [nat_lit 0xA722, nat_lit 0xA723],
   [nat_lit 0xA724, nat_lit 0xA725], [nat_lit 0xA726, nat_lit 0xA727],
   [nat_lit 0xA728, nat_lit 0xA729], [nat_lit 0xA72A, nat_lit 0xA72B],
   [nat_lit 0xA72C, nat_lit 0xA72D], [nat_lit 0xA72E, nat_lit 0xA72F],
   [nat_lit 0xA732, nat_lit 0xA733], [nat_lit 0xA734, nat_lit 0xA735],
   [nat_lit 0xA736, nat_lit 0xA737], [nat_lit 0xA738, nat_lit 0xA739],
   [nat_lit 0xA73A, nat_lit 0xA73B], [nat_lit 0xA73C, nat_lit 0xA73D],
   [nat_lit 0xA73E, nat_lit 0xA73F], [nat_lit 0xA740, nat_lit 0xA741],
   [nat_lit 0xA742, nat_lit 0xA743], [nat_lit 0xA744, nat_lit 0xA745],
   [nat_lit 0xA746, nat_lit 0xA747], [nat_lit 0xA748, nat_lit 0xA749],
   [nat_lit 0xA74A, nat_lit 0xA74B], [nat_lit 0xA74C, nat_lit 0xA74D],
   [nat_lit 0xA74E, nat_lit 0xA74F], [nat_lit 0xA750, nat_lit 0xA751],
   [nat_lit 0xA752, nat_lit 0xA753], [nat_lit 0xA754, nat_lit 0xA755],
   [nat_lit 0xA756, nat_lit 0xA757], [nat_lit 0xA758, nat_lit 0xA759],
   [nat_lit 0xA75A, nat_lit 0xA75B], [nat_lit 0xA75C, nat_lit 0xA75D],
   [nat_lit 0xA75E, nat_lit 0xA75F], [nat_lit 0xA760, nat_lit 0xA761],
   [nat_lit 0xA762, nat_lit 0xA763], [nat_lit 0xA764, nat_lit 0xA765],
   [nat_lit 0xA766, nat_lit 0xA767], [nat_lit 0xA768, nat_lit 0xA769],
   [nat_lit 0xA76A, nat_lit 0xA76B], [nat_lit 0xA76C, nat_lit 0xA76D],
   [nat_lit 0xA76E, nat_lit 0xA76F], [nat_lit 0xA779, nat_lit 0xA77A],
   [nat_lit 0xA77B, nat_lit 0xA77C], [nat_lit 0xA77E, nat_lit 0xA77F],
   [nat_lit 0xA780, nat_lit 0xA781], [nat_lit 0xA782, nat_lit 0xA783],
   [nat_lit 0xA784, nat_lit 0xA785], [nat_lit 0xA786, nat_lit 0xA787],
   [nat_lit 0xA78B, nat_lit 0xA78C], [nat_lit 0xA790, nat_lit 0xA791],
   [nat_lit 0xA792, nat_lit 0xA793], [nat_lit 0xA794, nat_lit 0xA7C4],
   [nat_lit 0xA796, nat_lit 0xA797], [nat_lit 0xA798, nat_lit 0xA799],
   [nat_lit 0xA79A, nat_lit 0xA79B], [nat_lit 0xA79C, nat_lit 0xA79D],
   [nat_lit 0xA79E, nat_lit 0xA79F], [nat_lit 0xA7A0, nat_lit 0xA7A1],
   [nat_lit 0xA7A2, nat_lit 0xA7A3], [nat_lit 0xA7A4, nat_lit 0xA7A5],
   [nat_lit 0xA7A6, nat_lit 0xA7A7], [nat_lit 0xA7A8, nat_lit 0xA7A9],
   [nat_lit 0xA7B3, nat_lit 0xAB53], [nat_lit 0xA7B4, nat_lit 0xA7B5],
   [nat_lit 0xA7B6, nat_lit 0xA7B7], [nat_lit 0xA7B8, nat_lit 0xA7B9],
   [nat_lit 0xA7BA, nat_lit 0xA7BB], [nat_lit 0xA7BC, nat_lit 0xA7BD],
   [nat_lit 0xA7BE, nat_lit 0xA7BF], [nat_lit 0xA7C0, nat_lit 0xA7C1],
   [nat_lit 0xA7C2, nat_lit 0xA7C3], [nat_lit 0xA7C7, nat_lit 0xA7C8],
   [nat_lit 0xA7C9, nat_lit 0xA7CA], [nat_lit 0xA7CC, nat_lit 0xA7CD],
   [nat_lit 0xA7D0, nat_lit 0xA7D1], [nat_lit 0xA7D6, nat_lit 0xA7D7],
   [nat_lit 0xA7D8, nat_lit 0xA7D9], [nat_lit 0xA7DA, nat_lit 0xA7DB],
   [nat_lit 0xA7F5, nat_lit 0xA7F6], [nat_lit 0xFB05, nat_lit 0xFB06],
   [nat_lit 0xFF21, nat_lit 0xFF41], [nat_lit 0xFF22, nat_lit 0xFF42],
   [nat_lit 0xFF23, nat_lit 0xFF43], [nat_lit 0xFF24, nat_lit 0xFF44],
   [nat_lit 0xFF25, nat_lit 0xFF45], [nat_lit 0xFF26, nat_lit 0xFF46],
   [nat_lit 0xFF27, nat_lit 0xFF47], [nat_lit 0xFF28, nat_lit 0xFF48],
   [nat_lit 0xFF29, nat_lit 0xFF49], [nat_lit 0xFF2A, nat_lit 0xFF4A],
   [nat_lit 0xFF2B, nat_lit 0xFF4B], [nat_lit 0xFF2C, nat_lit 0xFF4C],
   [nat_lit 0xFF2D, nat_lit 0xFF4D], [nat_lit 0xFF2E, nat_lit 0xFF4E],
   [nat_lit 0xFF2F, nat_lit 0xFF4F], [nat_lit 0xFF30, nat_lit 0xFF50],
   [nat_lit 0xFF31, nat_lit 0xFF51], [nat_lit 0xFF32, nat_lit 0xFF52],
   [nat_lit 0xFF33, nat_lit 0xFF53], [nat_lit 0xFF34, nat_lit 0xFF54],
   [nat_lit 0xFF35, nat_lit 0xFF55], [nat_lit 0xFF36, nat_lit 0xFF56],
   [nat_lit 0xFF37, nat_lit 0xFF57], [nat_lit 0xFF38, nat_lit 0xFF58],
   [nat_lit 0xFF39, nat_lit 0xFF59], [nat_lit 0xFF3A, nat_lit 0xFF5A],
   [nat_lit 0x10400, nat_lit 0x10428], [nat_lit 0x10401, nat_lit 0x10429],
   [nat_lit 0x10402, nat_lit 0x1042A], [nat_lit 0x10403, nat_lit 0x1042B],
   [nat_lit 0x10404, nat_lit 0x1042C], [nat_lit 0x10405, nat_lit 0x1042D],
   [nat_lit 0x10406, nat_lit 0x1042E], [nat_lit 0x10407, nat_lit 0x1042F],
   [nat_lit 0x10408, nat_lit 0x10430], [nat_lit 0x10409, nat_lit 0x10431],
   [nat_lit 0x1040A, nat_lit 0x10432], [nat_lit 0x1040B, nat_lit 0x10433],
   [nat_lit 0x1040C, nat_lit 0x10434], [nat_lit 0x1040D, nat_lit 0x10435],
   [nat_lit 0x1040E, nat_lit 0x10436], [nat_lit 0x1040F, nat_lit 0x10437],
   [nat_lit 0x10410, nat_lit 0x10438], [nat_lit 0x10411, nat_lit 0x10439],
   [nat_lit 0x10412, nat_lit 0x1043A], [nat_lit 0x10413, nat_lit 0x1043B],
   [nat_lit 0x10414, nat_lit 0x1043C], [nat_lit 0x10415, nat_lit 0x1043D],
   [nat_lit 0x10416, nat_lit 0x1043E], [nat_lit 0x10417, nat_lit 0x1043F],
   [nat_lit 0x10418, nat_lit 0x10440], [nat_lit 0x10419, nat_lit 0x10441],
   [nat_lit 0x1041A, nat_lit 0x10442], [nat_lit 0x1041B, nat_lit 0x10443],
   [nat_lit 0x1041C, nat_lit 0x10444], [nat_lit 0x1041D, nat_lit 0x10445],
   [nat_lit 0x1041E, nat_lit 0x10446], [nat_lit 0x1041F, nat_lit 0x10447],
   [nat_lit 0x10420, nat_lit 0x10448], [nat_lit 0x10421, nat_lit 0x10449],
   [nat_lit 0x10422, nat_lit 0x1044A], [nat_lit 0x10423, nat_lit 0x1044B],
   [nat_lit 0x10424, nat_lit 0x1044C], [nat_lit 0x10425, nat_lit 0x1044D],
   [nat_lit 0x10426, nat_lit 0x1044E], [nat_lit 0x10427, nat_lit 0x1044F],
   [nat_lit 0x104B0, nat_lit 0x104D8], [nat_lit 0x104B1, nat_lit 0x104D9],
   [nat_lit 0x104B2, nat_lit 0x104DA], [nat_lit 0x104B3, nat_lit 0x104DB],
   [nat_lit 0x104B4, nat_lit 0x104DC], [nat_lit 0x104B5, nat_lit 0x104DD],
   [nat_lit 0x104B6, nat_lit 0x104DE], [nat_lit 0x104B7, nat_lit 0x104DF],
   [nat_lit 0x104B8, nat_lit 0x104E0], [nat_lit 0x104B9, nat_lit 0x104E1],
   [nat_lit 0x104BA, nat_lit 0x104E2], [nat_lit 0x104BB, nat_lit 0x104E3],
   [nat_lit 0x104BC, nat_lit 0x104E4], [nat_lit 0x104BD, nat_lit 0x104E5],
   [nat_lit 0x104BE, nat_lit 0x104E6], [nat_lit 0x104BF, nat_lit 0x104E7],
   [nat_lit 0x104C0, nat_lit 0x104E8], [nat_lit 0x104C1, nat_lit 0x104E9],
   [nat_lit 0x104C2, nat_lit 0x104EA], [nat_lit 0x104C3, nat_lit 0x104EB],
   [nat_lit 0x104C4, nat_lit 0x104EC], [nat_lit 0x104C5, nat_lit 0x104ED],
   [nat_lit 0x104C6, nat_lit 0x104EE], [nat_lit 0x104C7, nat_lit 0x104EF],
   [nat_lit 0x104C8, nat_lit 0x104F0], [nat_lit 0x104C9, nat_lit 0x104F1],
   [nat_lit 0x104CA, nat_lit 0x104F2], [nat_lit 0x104CB, nat_lit 0x104F3],
   [nat_lit 0x104CC, nat_lit 0x104F4], [nat_lit 0x104CD, nat_lit 0x104F5],
   [nat_lit 0x104CE, nat_lit 0x104F6], [nat_lit 0x104CF, nat_lit 0x104F7],
   [nat_lit 0x104D0, nat_lit 0x104F8], [nat_lit 0x104D1, nat_lit 0x104F9],
   [nat_lit 0x104D2, nat_lit 0x104FA], [nat_lit 0x104D3, nat_lit 0x104FB],
   [nat_lit 0x10570, nat_lit 0x10597], [nat_lit 0x10571, nat_lit 0x10598],
   [nat_lit 0x10572, nat_lit 0x10599], [nat_lit 0x10573, nat_lit 0x1059A],
   [nat_lit 0x10574, nat_lit 0x1059B], [nat_lit 0x10575, nat_lit 0x1059C],
   [nat_lit 0x10576, nat_lit 0x1059D], [nat_lit 0x10577, nat_lit 0x1059E],
   [nat_lit 0x10578, nat_lit 0x1059F], [nat_lit 0x10579, nat_lit 0x105A0],
   [nat_lit 0x1057A, nat_lit 0x105A1], [nat_lit 0x1057C, nat_lit 0x105A3],
   [nat_lit 0x1057D, nat_lit 0x105A4], [nat_lit 0x1057E, nat_lit 0x105A5],
   [nat_lit 0x1057F, nat_lit 0x105A6], [nat_lit 0x10580, nat_lit 0x105A7],
   [nat_lit 0x10581, nat_lit 0x105A8], [nat_lit 0x10582, nat_lit 0x105A9],
   [nat_lit 0x10583, nat_lit 0x105AA], [nat_lit 0x10584, nat_lit 0x105AB],
   [nat_lit 0x10585, nat_lit 0x105AC], [nat_lit 0x10586, nat_lit 0x105AD],
   [nat_lit 0x10587, nat_lit 0x105AE], [nat_lit 0x10588, nat_lit 0x105AF],
   [nat_lit 0x10589, nat_lit 0x105B0], [nat_lit 0x1058A, nat_lit 0x105B1],
   [nat_lit 0x1058C, nat_lit 0x105B3], [nat_lit 0x1058D, nat_lit 0x105B4],
   [nat_lit 0x1058E, nat_lit 0x105B5], [nat_lit 0x1058F, nat_lit 0x105B6],
   [nat_lit 0x10590, nat_lit 0x105B7], [nat_lit 0x10591, nat_lit 0x105B8],
   [nat_lit 0x10592, nat_lit 0x105B9], [nat_lit 0x10594, nat_lit 0x105BB],
   [nat_lit 0x10595, nat_lit 0x105BC], [nat_lit 0x10C80, nat_lit 0x10CC0],
   [nat_lit 0x10C81, nat_lit 0x10CC1], [nat_lit 0x10C82, nat_lit 0x10CC2],
   [nat_lit 0x10C83, nat_lit 0x10CC3], [nat_lit 0x10C84, nat_lit 0x10CC4],
   [nat_lit 0x10C85, nat_lit 0x10CC5], [nat_lit 0x10C86, nat_lit 0x10CC6],
   [nat_lit 0x10C87, nat_lit 0x10CC7], [nat_lit 0x10C88, nat_lit 0x10CC8],
   [nat_lit 0x10C89, nat_lit 0x10CC9], [nat_lit 0x10C8A, nat_lit 0x10CCA],
   [nat_lit 0x10C8B, nat_lit 0x10CCB], [nat_lit 0x10C8C, nat_lit 0x10CCC],
   [nat_lit 0x10C8D, nat_lit 0x10CCD], [nat_lit 0x10C8E, nat_lit 0x10CCE],
   [nat_lit 0x10C8F, nat_lit 0x10CCF], [nat_lit 0x10C90, nat_lit 0x10CD0],
   [nat_lit 0x10C91, nat_lit 0x10CD1], [nat_lit 0x10C92, nat_lit 0x10CD2],
   [nat_lit 0x10C93, nat_lit 0x10CD3], [nat_lit 0x10C94, nat_lit 0x10CD4],
   [nat_lit 0x10C95, nat_lit 0x10CD5], [nat_lit 0x10C96, nat_lit 0x10CD6],
   [nat_lit 0x10C97, nat_lit 0x10CD7], [nat_lit 0x10C98, nat_lit 0x10CD8],
   [nat_lit 0x10C99, nat_lit 0x10CD9], [nat_lit 0x10C9A, nat_lit 0x10CDA],
   [nat_lit 0x10C9B, nat_lit 0x10CDB], [nat_lit 0x10C9C, nat_lit 0x10CDC],
   [nat_lit 0x10C9D, nat_lit 0x10CDD], [nat_lit 0x10C9E, nat_lit 0x10CDE],
   [nat_lit 0x10C9F, nat_lit 0x10CDF], [nat_lit 0x10CA0, nat_lit 0x10CE0],
   [nat_lit 0x10CA1, nat_lit 0x10CE1], [nat_lit 0x10CA2, nat_lit 0x10CE2],
   [nat_lit 0x10CA3, nat_lit 0x10CE3], [nat_lit 0x10CA4, nat_lit 0x10CE4],
   [nat_lit 0x10CA5, nat_lit 0x10CE5], [nat_lit 0x10CA6, nat_lit 0x10CE6],
   [nat_lit 0x10CA7, nat_lit 0x10CE7], [nat_lit 0x10CA8, nat_lit 0x10CE8],
   [nat_lit 0x10CA9, nat_lit 0x10CE9], [nat_lit 0x10CAA, nat_lit 0x10CEA],
   [nat_lit 0x10CAB, nat_lit 0x10CEB], [nat_lit 0x10CAC, nat_lit 0x10CEC],
   [nat_lit 0x10CAD, nat_lit 0x10CED], [nat_lit 0x10CAE, nat_lit 0x10CEE],
   [nat_lit 0x10CAF, nat_lit 0x10CEF], [nat_lit 0x10CB0, nat_lit 0x10CF0],
   [nat_lit 0x10CB1, nat_lit 0x10CF1], [nat_lit 0x10CB2, nat_lit 0x10CF2],
   [nat_lit 0x10D50, nat_lit 0x10D70], [nat_lit 0x10D51, nat_lit 0x10D71],
   [nat_lit 0x10D52, nat_lit 0x10D72], [nat_lit 0x10D53, nat_lit 0x10D73],
   [nat_lit 0x10D54, nat_lit 0x10D74], [nat_lit 0x10D55, nat_lit 0x10D75],
   [nat_lit 0x10D56, nat_lit 0x10D76], [nat_lit 0x10D57, nat_lit 0x10D77],
   [nat_lit 0x10D58, nat_lit 0x10D78], [nat_lit 0x10D59, nat_lit 0x10D79],
   [nat_lit 0x10D5A, nat_lit 0x10D7A], [nat_lit 0x10D5B, nat_lit 0x10D7B],
   [nat_lit 0x10D5C, nat_lit 0x10D7C], [nat_lit 0x10D5D, nat_lit 0x10D7D],
   [nat_lit 0x10D5E, nat_lit 0x10D7E], [nat_lit 0x10D5F, nat_lit 0x10D7F],
   [nat_lit 0x10D60, nat_lit 0x10D80], [nat_lit 0x10D61, nat_lit 0x10D81],
   [nat_lit 0x10D62, nat_lit 0x10D82], [nat_lit 0x10D63, nat_lit 0x10D83],
   [nat_lit 0x10D64, nat_lit 0x10D84], [nat_lit 0x10D65, nat_lit 0x10D85],
   [nat_lit 0x118A0, nat_lit 0x118C0], [nat_lit 0x118A1, nat_lit 0x118C1],
   [nat_lit 0x118A2, nat_lit 0x118C2], [nat_lit 0x118A3, nat_lit 0x118C3],
   [nat_lit 0x118A4, nat_lit 0x118C4], [nat_lit 0x118A5, nat_lit 0x118C5],
   [nat_lit 0x118A6, nat_lit 0x118C6], [nat_lit 0x118A7, nat_lit 0x118C7],
   [nat_lit 0x118A8, nat_lit 0x118C8], [nat_lit 0x118A9, nat_lit 0x118C9],
   [nat_lit 0x118AA, nat_lit 0x118CA], [nat_lit 0x118AB, nat_lit 0x118CB],
   [nat_lit 0x118AC, nat_lit 0x118CC], [nat_lit 0x118AD, nat_lit 0x118CD],
   [nat_lit 0x118AE, nat_lit 0x118CE], [nat_lit 0x118AF, nat_lit 0x118CF],
   [nat_lit 0x118B0, nat_lit 0x118D0], [nat_lit 0x118B1, nat_lit 0x118D1],
   [nat_lit 0x118B2, nat_lit 0x118D2], [nat_lit 0x118B3, nat_lit 0x118D3],
   [nat_lit 0x118B4, nat_lit 0x118D4], [nat_lit 0x118B5, nat_lit 0x118D5],
   [nat_lit 0x118B6, nat_lit 0x118D6], [nat_lit 0x118B7, nat_lit 0x118D7],
   [nat_lit 0x118B8, nat_lit 0x118D8], [nat_lit 0x118B9, nat_lit 0x118D9],
   [nat_lit 0x118BA, nat_lit 0x118DA], [nat_lit 0x118BB, nat_lit 0x118DB],
   [nat_lit 0x118BC, nat_lit 0x118DC], [nat_lit 0x118BD, nat_lit 0x118DD],
   [nat_lit 0x118BE, nat_lit 0x118DE], [nat_lit 0x118BF, nat_lit 0x118DF],
   [nat_lit 0x16E40, nat_lit 0x16E60], [nat_lit 0x16E41, nat_lit 0x16E61],
   [nat_lit 0x16E42, nat_lit 0x16E62], [nat_lit 0x16E43, nat_lit 0x16E63],
   [nat_lit 0x16E44, nat_lit 0x16E64], [nat_lit 0x16E45, nat_lit 0x16E65],
   [nat_lit 0x16E46, nat_lit 0x16E66], [nat_lit 0x16E47, nat_lit 0x16E67],
   [nat_lit 0x16E48, nat_lit 0x16E68], [nat_lit 0x16E49, nat_lit 0x16E69],
   [nat_lit 0x16E4A, nat_lit 0x16E6A], [nat_lit 0x16E4B, nat_lit 0x16E6B],
   [nat_lit 0x16E4C, nat_lit 0x16E6C], [nat_lit 0x16E4D, nat_lit 0x16E6D],
   [nat_lit 0x16E4E, nat_lit 0x16E6E], [nat_lit 0x16E4F, nat_lit 0x16E6F],
   [nat_lit 0x16E50, nat_lit 0x16E70], [nat_lit 0x16E51, nat_lit 0x16E71],
   [nat_lit 0x16E52, nat_lit 0x16E72], [nat_lit 0x16E53, nat_lit 0x16E73],
   [nat_lit 0x16E54, nat_lit 0x16E74], [nat_lit 0x16E55, nat_lit 0x16E75],
   [nat_lit 0x16E56, nat_lit 0x16E76], [nat_lit 0x16E57, nat_lit 0x16E77],
   [nat_lit 0x16E58, nat_lit 0x16E78], [nat_lit 0x16E59, nat_lit 0x16E79],
   [nat_lit 0x16E5A, nat_lit 0x16E7A], [nat_lit 0x16E5B, nat_lit 0x16E7B],
   [nat_lit 0x16E5C, nat_lit 0x16E7C], [nat_lit 0x16E5D, nat_lit 0x16E7D],
   [nat_lit 0x16E5E, nat_lit 0x16E7E], [nat_lit 0x16E5F, nat_lit 0x16E7F],
   [nat_lit 0x1E900, nat_lit 0x1E922], [nat_lit 0x1E901, nat_lit 0x1E923],
   [nat_lit 0x1E902, nat_lit 0x1E924], [nat_lit 0x1E903, nat_lit 0x1E925],
   [nat_lit 0x1E904, nat_lit 0x1E926], [nat_lit 0x1E905, nat_lit 0x1E927],
   [nat_lit 0x1E906, nat_lit 0x1E928], [nat_lit 0x1E907, nat_lit 0x1E929],
   [nat_lit 0x1E908, nat_lit 0x1E92A], [nat_lit 0x1E909, nat_lit 0x1E92B],
   [nat_lit 0x1E90A, nat_lit 0x1E92C], [nat_lit 0x1E90B, nat_lit 0x1E92D],
   [nat_lit 0x1E90C, nat_lit 0x1E92E], [nat_lit 0x1E90D, nat_lit 0x1E92F],
   [nat_lit 0x1E90E, nat_lit 0x1E930], [nat_lit 0x1E90F, nat_lit 0x1E931],
   [nat_lit 0x1E910, nat_lit 0x1E932], [nat_lit 0x1E911, nat_lit 0x1E933],
   [nat_lit 0x1E912, nat_lit 0x1E934], [nat_lit 0x1E913, nat_lit 0x1E935],
   [nat_lit 0x1E914, nat_lit 0x1E936], [nat_lit 0x1E915, nat_lit 0x1E937],
   [nat_lit 0x1E916, nat_lit 0x1E938], [nat_lit 0x1E917, nat_lit 0x1E939],
   [nat_lit 0x1E918, nat_lit 0x1E93A], [nat_lit 0x1E919, nat_lit 0x1E93B],
   [nat_lit 0x1E91A, nat_lit 0x1E93C], [nat_lit 0x1E91B, nat_lit 0x1E93D],
   [nat_lit 0x1E91C, nat_lit 0x1E93E], [nat_lit 0x1E91D, nat_lit 0x1E93F],
   [nat_lit 0x1E91E, nat_lit 0x1E940], [nat_lit 0x1E91F, nat_lit 0x1E941],
   [nat_lit 0x1E920, nat_lit 0x1E942], [nat_lit 0x1E921, nat_lit 0x1E943]]

end Unicode

end EcmaRegex
