import EcmaRegex.CodePointSet.Basic
/-!
# Binary properties of ideographs

Ideographs, unified ideographs, radicals and the operators of ideographic description
sequences.
Unicode character database, version 16.0; each table lists the code points that have the
property, as ranges, by the property's long name.
-/

namespace EcmaRegex

namespace Unicode

set_option maxRecDepth 20000 in
/-- Binary properties of ideographs, as ranges, by long name. -/
def ideographTables : List (String × List CodePointRange) := [
  ("Ideographic",
    [⟨nat_lit 0x3006, nat_lit 0x3007⟩, ⟨nat_lit 0x3021, nat_lit 0x3029⟩,
     ⟨nat_lit 0x3038, nat_lit 0x303A⟩, ⟨nat_lit 0x3400, nat_lit 0x4DBF⟩,
     ⟨nat_lit 0x4E00, nat_lit 0x9FFF⟩, ⟨nat_lit 0xF900, nat_lit 0xFA6D⟩,
     ⟨nat_lit 0xFA70, nat_lit 0xFAD9⟩, ⟨nat_lit 0x16FE4, nat_lit 0x16FE4⟩,
     ⟨nat_lit 0x17000, nat_lit 0x187F7⟩, ⟨nat_lit 0x18800, nat_lit 0x18CD5⟩,
     ⟨nat_lit 0x18CFF, nat_lit 0x18D08⟩, ⟨nat_lit 0x1B170, nat_lit 0x1B2FB⟩,
     ⟨nat_lit 0x20000, nat_lit 0x2A6DF⟩, ⟨nat_lit 0x2A700, nat_lit 0x2B739⟩,
     ⟨nat_lit 0x2B740, nat_lit 0x2B81D⟩, ⟨nat_lit 0x2B820, nat_lit 0x2CEA1⟩,
     ⟨nat_lit 0x2CEB0, nat_lit 0x2EBE0⟩, ⟨nat_lit 0x2EBF0, nat_lit 0x2EE5D⟩,
     ⟨nat_lit 0x2F800, nat_lit 0x2FA1D⟩, ⟨nat_lit 0x30000, nat_lit 0x3134A⟩,
     ⟨nat_lit 0x31350, nat_lit 0x323AF⟩]),
  ("Unified_Ideograph",
    [⟨nat_lit 0x3400, nat_lit 0x4DBF⟩, ⟨nat_lit 0x4E00, nat_lit 0x9FFF⟩,
     ⟨nat_lit 0xFA0E, nat_lit 0xFA0F⟩, ⟨nat_lit 0xFA11, nat_lit 0xFA11⟩,
     ⟨nat_lit 0xFA13, nat_lit 0xFA14⟩, ⟨nat_lit 0xFA1F, nat_lit 0xFA1F⟩,
     ⟨nat_lit 0xFA21, nat_lit 0xFA21⟩, ⟨nat_lit 0xFA23, nat_lit 0xFA24⟩,
     ⟨nat_lit 0xFA27, nat_lit 0xFA29⟩, ⟨nat_lit 0x20000, nat_lit 0x2A6DF⟩,
     ⟨nat_lit 0x2A700, nat_lit 0x2B739⟩, ⟨nat_lit 0x2B740, nat_lit 0x2B81D⟩,
     ⟨nat_lit 0x2B820, nat_lit 0x2CEA1⟩, ⟨nat_lit 0x2CEB0, nat_lit 0x2EBE0⟩,
     ⟨nat_lit 0x2EBF0, nat_lit 0x2EE5D⟩, ⟨nat_lit 0x30000, nat_lit 0x3134A⟩,
     ⟨nat_lit 0x31350, nat_lit 0x323AF⟩]),
  ("Radical",
    [⟨nat_lit 0x2E80, nat_lit 0x2E99⟩, ⟨nat_lit 0x2E9B, nat_lit 0x2EF3⟩,
     ⟨nat_lit 0x2F00, nat_lit 0x2FD5⟩]),
  ("IDS_Binary_Operator",
    [⟨nat_lit 0x2FF0, nat_lit 0x2FF1⟩, ⟨nat_lit 0x2FF4, nat_lit 0x2FFD⟩,
     ⟨nat_lit 0x31EF, nat_lit 0x31EF⟩]),
  ("IDS_Trinary_Operator",
    [⟨nat_lit 0x2FF2, nat_lit 0x2FF3⟩])]

end Unicode

end EcmaRegex
