import EcmaRegex.Property.Lookup
import EcmaRegex.Unicode.Binary
import EcmaRegex.Unicode.GeneralCategory
import EcmaRegex.Unicode.Script
import EcmaRegex.Unicode.ScriptExtensions
import EcmaRegex.Unicode.SimpleFolding
/-!
# A Unicode library read off tables

`Unicode.tables` is a `UnicodeLibrary` whose answers come from the character tables of this
development.

* A class is kept as the ranges it is given, unsorted.
* Simple case folding adds to a class the members of every class of `simpleFoldingClasses` that
  meets it; `simpleKey` is the folding these classes stand for.
* The parser understands the escapes `\p{query}` for the queries that property lookup writes:
  `gc=`, `sc=` or `scx=` and a value, or a binary property, each spelled as the tables below
  spell it.  Its answer is the class of the characters of the property's set.

The tables name every property and value under each of its spellings and say what it stands
for: a binary property is `Any`, `ASCII`, `Assigned` or a table by its long name, a value of
General_Category stands for one category or a union of them, and a value of Script or
Script_Extensions names a script by its long name.  The binary property
Changes_When_NFKC_Casefolded and the script Unknown have no table, and the parser refuses them.
-/

namespace EcmaRegex

namespace Unicode

/-- What a binary property name stands for. -/
inductive BinaryProperty where
  /-- Every code point. -/
  | any
  /-- The code points `0` to `0x7F`. -/
  | ascii
  /-- The code points of every category but `unassigned`. -/
  | assigned
  /-- The table of the character database with the given long name. -/
  | table (name : String)
  deriving DecidableEq, Repr

/-- The binary properties, each with its spellings. -/
def binaryAliases : List (List String × BinaryProperty) := [
  (["ASCII"], .ascii),
  (["ASCII_Hex_Digit", "AHex"], .table "ASCII_Hex_Digit"),
  (["Alphabetic", "Alpha"], .table "Alphabetic"),
  (["Any"], .any),
  (["Assigned"], .assigned),
  (["Bidi_Control", "Bidi_C"], .table "Bidi_Control"),
  (["Bidi_Mirrored", "Bidi_M"], .table "Bidi_Mirrored"),
  (["Case_Ignorable", "CI"], .table "Case_Ignorable"),
  (["Cased"], .table "Cased"),
  (["Changes_When_Casefolded", "CWCF"], .table "Changes_When_Casefolded"),
  (["Changes_When_Casemapped", "CWCM"], .table "Changes_When_Casemapped"),
  (["Changes_When_Lowercased", "CWL"], .table "Changes_When_Lowercased"),
  (["Changes_When_NFKC_Casefolded", "CWKCF"], .table "Changes_When_NFKC_Casefolded"),
  (["Changes_When_Titlecased", "CWT"], .table "Changes_When_Titlecased"),
  (["Changes_When_Uppercased", "CWU"], .table "Changes_When_Uppercased"),
  (["Dash"], .table "Dash"),
  (["Default_Ignorable_Code_Point", "DI"], .table "Default_Ignorable_Code_Point"),
  (["Deprecated", "Dep"], .table "Deprecated"),
  (["Diacritic", "Dia"], .table "Diacritic"),
  (["Emoji"], .table "Emoji"),
  (["Emoji_Component", "EComp"], .table "Emoji_Component"),
  (["Emoji_Modifier", "EMod"], .table "Emoji_Modifier"),
  (["Emoji_Modifier_Base", "EBase"], .table "Emoji_Modifier_Base"),
  (["Emoji_Presentation", "EPres"], .table "Emoji_Presentation"),
  (["Extended_Pictographic", "ExtPict"], .table "Extended_Pictographic"),
  (["Extender", "Ext"], .table "Extender"),
  (["Grapheme_Base", "Gr_Base"], .table "Grapheme_Base"),
  (["Grapheme_Extend", "Gr_Ext"], .table "Grapheme_Extend"),
  (["Hex_Digit", "Hex"], .table "Hex_Digit"),
  (["IDS_Binary_Operator", "IDSB"], .table "IDS_Binary_Operator"),
  (["IDS_Trinary_Operator", "IDST"], .table "IDS_Trinary_Operator"),
  (["ID_Continue", "IDC"], .table "ID_Continue"),
  (["ID_Start", "IDS"], .table "ID_Start"),
  (["Ideographic", "Ideo"], .table "Ideographic"),
  (["Join_Control", "Join_C"], .table "Join_Control"),
  (["Logical_Order_Exception", "LOE"], .table "Logical_Order_Exception"),
  (["Lowercase", "Lower"], .table "Lowercase"),
  (["Math"], .table "Math"),
  (["Noncharacter_Code_Point", "NChar"], .table "Noncharacter_Code_Point"),
  (["Pattern_Syntax", "Pat_Syn"], .table "Pattern_Syntax"),
  (["Pattern_White_Space", "Pat_WS"], .table "Pattern_White_Space"),
  (["Quotation_Mark", "QMark"], .table "Quotation_Mark"),
  (["Radical"], .table "Radical"),
  (["Regional_Indicator", "RI"], .table "Regional_Indicator"),
  (["Sentence_Terminal", "STerm"], .table "Sentence_Terminal"),
  (["Soft_Dotted", "SD"], .table "Soft_Dotted"),
  (["Terminal_Punctuation", "Term"], .table "Terminal_Punctuation"),
  (["Unified_Ideograph", "UIdeo"], .table "Unified_Ideograph"),
  (["Uppercase", "Upper"], .table "Uppercase"),
  (["Variation_Selector", "VS"], .table "Variation_Selector"),
  (["White_Space", "space"], .table "White_Space"),
  (["XID_Continue", "XIDC"], .table "XID_Continue"),
  (["XID_Start", "XIDS"], .table "XID_Start")]

/-- The values of General_Category, each with its spellings and the categories it covers. -/
def categoryAliases : List (List String × List GeneralCategory) := [
  (["Cased_Letter", "LC"],
    [.uppercaseLetter, .lowercaseLetter, .titlecaseLetter]),
  (["Close_Punctuation", "Pe"],
    [.closePunctuation]),
  (["Connector_Punctuation", "Pc"],
    [.connectorPunctuation]),
  (["Control", "Cc", "cntrl"],
    [.control]),
  (["Currency_Symbol", "Sc"],
    [.currencySymbol]),
  (["Dash_Punctuation", "Pd"],
    [.dashPunctuation]),
  (["Decimal_Number", "Nd", "digit"],
    [.decimalNumber]),
  (["Enclosing_Mark", "Me"],
    [.enclosingMark]),
  (["Final_Punctuation", "Pf"],
    [.finalPunctuation]),
  (["Format", "Cf"],
    [.format]),
  (["Initial_Punctuation", "Pi"],
    [.initialPunctuation]),
  (["Letter", "L"],
    [.uppercaseLetter, .lowercaseLetter, .titlecaseLetter, .modifierLetter, .otherLetter]),
  (["Letter_Number", "Nl"],
    [.letterNumber]),
  (["Line_Separator", "Zl"],
    [.lineSeparator]),
  (["Lowercase_Letter", "Ll"],
    [.lowercaseLetter]),
  (["Mark", "M", "Combining_Mark"],
    [.nonspacingMark, .spacingMark, .enclosingMark]),
  (["Math_Symbol", "Sm"],
    [.mathSymbol]),
  (["Modifier_Letter", "Lm"],
    [.modifierLetter]),
  (["Modifier_Symbol", "Sk"],
    [.modifierSymbol]),
  (["Nonspacing_Mark", "Mn"],
    [.nonspacingMark]),
  (["Number", "N"],
    [.decimalNumber, .letterNumber, .otherNumber]),
  (["Open_Punctuation", "Ps"],
    [.openPunctuation]),
  (["Other", "C"],
    [.control, .format, .surrogate, .privateUse, .unassigned]),
  (["Other_Letter", "Lo"],
    [.otherLetter]),
  (["Other_Number", "No"],
    [.otherNumber]),
  (["Other_Punctuation", "Po"],
    [.otherPunctuation]),
  (["Other_Symbol", "So"],
    [.otherSymbol]),
  (["Paragraph_Separator", "Zp"],
    [.paragraphSeparator]),
  (["Private_Use", "Co"],
    [.privateUse]),
  (["Punctuation", "P", "punct"],
    [.connectorPunctuation, .dashPunctuation, .openPunctuation, .closePunctuation,
      .initialPunctuation, .finalPunctuation, .otherPunctuation]),
  (["Separator", "Z"],
    [.spaceSeparator, .lineSeparator, .paragraphSeparator]),
  (["Space_Separator", "Zs"],
    [.spaceSeparator]),
  (["Spacing_Mark", "Mc"],
    [.spacingMark]),
  (["Surrogate", "Cs"],
    [.surrogate]),
  (["Symbol", "S"],
    [.mathSymbol, .currencySymbol, .modifierSymbol, .otherSymbol]),
  (["Titlecase_Letter", "Lt"],
    [.titlecaseLetter]),
  (["Unassigned", "Cn"],
    [.unassigned]),
  (["Uppercase_Letter", "Lu"],
    [.uppercaseLetter])]

/-- The values of Script and Script_Extensions, each with its spellings and the long name of
the script. -/
def scriptAliases : List (List String × String) := [
  (["Adlam", "Adlm"], "Adlam"),
  (["Ahom"], "Ahom"),
  (["Anatolian_Hieroglyphs", "Hluw"], "Anatolian_Hieroglyphs"),
  (["Arabic", "Arab"], "Arabic"),
  (["Armenian", "Armn"], "Armenian"),
  (["Avestan", "Avst"], "Avestan"),
  (["Balinese", "Bali"], "Balinese"),
  (["Bamum", "Bamu"], "Bamum"),
  (["Bassa_Vah", "Bass"], "Bassa_Vah"),
  (["Batak", "Batk"], "Batak"),
  (["Bengali", "Beng"], "Bengali"),
  (["Bhaiksuki", "Bhks"], "Bhaiksuki"),
  (["Bopomofo", "Bopo"], "Bopomofo"),
  (["Brahmi", "Brah"], "Brahmi"),
  (["Braille", "Brai"], "Braille"),
  (["Buginese", "Bugi"], "Buginese"),
  (["Buhid", "Buhd"], "Buhid"),
  (["Canadian_Aboriginal", "Cans"], "Canadian_Aboriginal"),
  (["Carian", "Cari"], "Carian"),
  (["Caucasian_Albanian", "Aghb"], "Caucasian_Albanian"),
  (["Chakma", "Cakm"], "Chakma"),
  (["Cham"], "Cham"),
  (["Cherokee", "Cher"], "Cherokee"),
  (["Chorasmian", "Chrs"], "Chorasmian"),
  (["Common", "Zyyy"], "Common"),
  (["Coptic", "Copt", "Qaac"], "Coptic"),
  (["Cuneiform", "Xsux"], "Cuneiform"),
  (["Cypriot", "Cprt"], "Cypriot"),
  (["Cypro_Minoan", "Cpmn"], "Cypro_Minoan"),
  (["Cyrillic", "Cyrl"], "Cyrillic"),
  (["Deseret", "Dsrt"], "Deseret"),
  (["Devanagari", "Deva"], "Devanagari"),
  (["Dives_Akuru", "Diak"], "Dives_Akuru"),
  (["Dogra", "Dogr"], "Dogra"),
  (["Duployan", "Dupl"], "Duployan"),
  (["Egyptian_Hieroglyphs", "Egyp"], "Egyptian_Hieroglyphs"),
  (["Elbasan", "Elba"], "Elbasan"),
  (["Elymaic", "Elym"], "Elymaic"),
  (["Ethiopic", "Ethi"], "Ethiopic"),
  (["Georgian", "Geor"], "Georgian"),
  (["Glagolitic", "Glag"], "Glagolitic"),
  (["Gothic", "Goth"], "Gothic"),
  (["Grantha", "Gran"], "Grantha"),
  (["Greek", "Grek"], "Greek"),
  (["Gujarati", "Gujr"], "Gujarati"),
  (["Gunjala_Gondi", "Gong"], "Gunjala_Gondi"),
  (["Gurmukhi", "Guru"], "Gurmukhi"),
  (["Han", "Hani"], "Han"),
  (["Hangul", "Hang"], "Hangul"),
  (["Hanifi_Rohingya", "Rohg"], "Hanifi_Rohingya"),
  (["Hanunoo", "Hano"], "Hanunoo"),
  (["Hatran", "Hatr"], "Hatran"),
  (["Hebrew", "Hebr"], "Hebrew"),
  (["Hiragana", "Hira"], "Hiragana"),
  (["Imperial_Aramaic", "Armi"], "Imperial_Aramaic"),
  (["Inherited", "Zinh", "Qaai"], "Inherited"),
  (["Inscriptional_Pahlavi", "Phli"], "Inscriptional_Pahlavi"),
  (["Inscriptional_Parthian", "Prti"], "Inscriptional_Parthian"),
  (["Javanese", "Java"], "Javanese"),
  (["Kaithi", "Kthi"], "Kaithi"),
  (["Kannada", "Knda"], "Kannada"),
  (["Katakana", "Kana"], "Katakana"),
  (["Kawi"], "Kawi"),
  (["Kayah_Li", "Kali"], "Kayah_Li"),
  (["Kharoshthi", "Khar"], "Kharoshthi"),
  (["Khitan_Small_Script", "Kits"], "Khitan_Small_Script"),
  (["Khmer", "Khmr"], "Khmer"),
  (["Khojki", "Khoj"], "Khojki"),
  (["Khudawadi", "Sind"], "Khudawadi"),
  (["Lao", "Laoo"], "Lao"),
  (["Latin", "Latn"], "Latin"),
  (["Lepcha", "Lepc"], "Lepcha"),
  (["Limbu", "Limb"], "Limbu"),
  (["Linear_A", "Lina"], "Linear_A"),
  (["Linear_B", "Linb"], "Linear_B"),
  (["Lisu"], "Lisu"),
  (["Lycian", "Lyci"], "Lycian"),
  (["Lydian", "Lydi"], "Lydian"),
  (["Mahajani", "Mahj"], "Mahajani"),
  (["Makasar", "Maka"], "Makasar"),
  (["Malayalam", "Mlym"], "Malayalam"),
  (["Mandaic", "Mand"], "Mandaic"),
  (["Manichaean", "Mani"], "Manichaean"),
  (["Marchen", "Marc"], "Marchen"),
  (["Masaram_Gondi", "Gonm"], "Masaram_Gondi"),
  (["Medefaidrin", "Medf"], "Medefaidrin"),
  (["Meetei_Mayek", "Mtei"], "Meetei_Mayek"),
  (["Mende_Kikakui", "Mend"], "Mende_Kikakui"),
  (["Meroitic_Cursive", "Merc"], "Meroitic_Cursive"),
  (["Meroitic_Hieroglyphs", "Mero"], "Meroitic_Hieroglyphs"),
  (["Miao", "Plrd"], "Miao"),
  (["Modi"], "Modi"),
  (["Mongolian", "Mong"], "Mongolian"),
  (["Mro", "Mroo"], "Mro"),
  (["Multani", "Mult"], "Multani"),
  (["Myanmar", "Mymr"], "Myanmar"),
  (["Nabataean", "Nbat"], "Nabataean"),
  (["Nag_Mundari", "Nagm"], "Nag_Mundari"),
  (["Nandinagari", "Nand"], "Nandinagari"),
  (["New_Tai_Lue", "Talu"], "New_Tai_Lue"),
  (["Newa"], "Newa"),
  (["Nko", "Nkoo"], "Nko"),
  (["Nushu", "Nshu"], "Nushu"),
  (["Nyiakeng_Puachue_Hmong", "Hmnp"], "Nyiakeng_Puachue_Hmong"),
  (["Ogham", "Ogam"], "Ogham"),
  (["Ol_Chiki", "Olck"], "Ol_Chiki"),
  (["Old_Hungarian", "Hung"], "Old_Hungarian"),
  (["Old_Italic", "Ital"], "Old_Italic"),
  (["Old_North_Arabian", "Narb"], "Old_North_Arabian"),
  (["Old_Permic", "Perm"], "Old_Permic"),
  (["Old_Persian", "Xpeo"], "Old_Persian"),
  (["Old_Sogdian", "Sogo"], "Old_Sogdian"),
  (["Old_South_Arabian", "Sarb"], "Old_South_Arabian"),
  (["Old_Turkic", "Orkh"], "Old_Turkic"),
  (["Old_Uyghur", "Ougr"], "Old_Uyghur"),
  (["Oriya", "Orya"], "Oriya"),
  (["Osage", "Osge"], "Osage"),
  (["Osmanya", "Osma"], "Osmanya"),
  (["Pahawh_Hmong", "Hmng"], "Pahawh_Hmong"),
  (["Palmyrene", "Palm"], "Palmyrene"),
  (["Pau_Cin_Hau", "Pauc"], "Pau_Cin_Hau"),
  (["Phags_Pa", "Phag"], "Phags_Pa"),
  (["Phoenician", "Phnx"], "Phoenician"),
  (["Psalter_Pahlavi", "Phlp"], "Psalter_Pahlavi"),
  (["Rejang", "Rjng"], "Rejang"),
  (["Runic", "Runr"], "Runic"),
  (["Samaritan", "Samr"], "Samaritan"),
  (["Saurashtra", "Saur"], "Saurashtra"),
  (["Sharada", "Shrd"], "Sharada"),
  (["Shavian", "Shaw"], "Shavian"),
  (["Siddham", "Sidd"], "Siddham"),
  (["SignWriting", "Sgnw"], "SignWriting"),
  (["Sinhala", "Sinh"], "Sinhala"),
  (["Sogdian", "Sogd"], "Sogdian"),
  (["Sora_Sompeng", "Sora"], "Sora_Sompeng"),
  (["Soyombo", "Soyo"], "Soyombo"),
  (["Sundanese", "Sund"], "Sundanese"),
  (["Syloti_Nagri", "Sylo"], "Syloti_Nagri"),
  (["Syriac", "Syrc"], "Syriac"),
  (["Tagalog", "Tglg"], "Tagalog"),
  (["Tagbanwa", "Tagb"], "Tagbanwa"),
  (["Tai_Le", "Tale"], "Tai_Le"),
  (["Tai_Tham", "Lana"], "Tai_Tham"),
  (["Tai_Viet", "Tavt"], "Tai_Viet"),
  (["Takri", "Takr"], "Takri"),
  (["Tamil", "Taml"], "Tamil"),
  (["Tangsa", "Tnsa"], "Tangsa"),
  (["Tangut", "Tang"], "Tangut"),
  (["Telugu", "Telu"], "Telugu"),
  (["Thaana", "Thaa"], "Thaana"),
  (["Thai"], "Thai"),
  (["Tibetan", "Tibt"], "Tibetan"),
  (["Tifinagh", "Tfng"], "Tifinagh"),
  (["Tirhuta", "Tirh"], "Tirhuta"),
  (["Toto"], "Toto"),
  (["Ugaritic", "Ugar"], "Ugaritic"),
  (["Vai", "Vaii"], "Vai"),
  (["Vithkuqi", "Vith"], "Vithkuqi"),
  (["Wancho", "Wcho"], "Wancho"),
  (["Warang_Citi", "Wara"], "Warang_Citi"),
  (["Yezidi", "Yezi"], "Yezidi"),
  (["Yi", "Yiii"], "Yi"),
  (["Zanabazar_Square", "Zanb"], "Zanabazar_Square"),
  (["Unknown", "Zzzz"], "Unknown")]

/-- The meaning of a spelling in one of the tables above. -/
def findAlias? {α : Type} (table : List (List String × α)) (spelling : String) : Option α :=
  (table.find? (fun entry => entry.1.contains spelling)).map (·.2)

/-- What an accepted property asks the tables for. -/
inductive Query where
  | binary (p : BinaryProperty)
  | category (cs : List GeneralCategory)
  | script (name : String)
  | scriptExtensions (name : String)
  deriving DecidableEq, Repr

/-- The code points a query stands for, if the tables have them. -/
def Query.set? : Query → Option CodePointSet
  | .binary .any => some CodePointSet.full
  | .binary .ascii => some (CodePointSet.ofRange 0 0x7F)
  | .binary .assigned => some GeneralCategory.unassigned.set.complement
  | .binary (.table name) => binaryProperty? name
  | .category cs => some (cs.foldl (fun acc c => acc.union c.set) CodePointSet.empty)
  | .script name => script? name
  | .scriptExtensions name => scriptExtension? name

/-- The set of a query written as property lookup writes it, if the tables have one. -/
def querySet? (query : String) : Option CodePointSet :=
  match Property.splitAtEquals query with
  | some (short, value) =>
    if short = "gc" then (findAlias? categoryAliases value).bind fun cs => (Query.category cs).set?
    else if short = "sc" then (findAlias? scriptAliases value).bind fun s => (Query.script s).set?
    else if short = "scx" then
      (findAlias? scriptAliases value).bind fun s => (Query.scriptExtensions s).set?
    else none
  | none => (findAlias? binaryAliases query).bind fun p => (Query.binary p).set?

/-- The single-character range of a code point, when it is a character. -/
def pointRange? (n : Nat) : Option CharRange :=
  (charOfCode? n).map fun ch => ⟨ch, ch, Char.le_refl ch⟩

/-- The class with the members of every class of `classes` that meets it. -/
def foldByClasses (classes : List (List Nat)) (c : UnicodeClass) : UnicodeClass :=
  ⟨c.ranges ++ (classes.filter fun cl => cl.any c.covers).flatMap (·.filterMap pointRange?)⟩

/-- What the parser makes of a property escape `\p{query}`: the class of the query's set. -/
def parseProperty (pattern : String) : Option Hir :=
  match pattern.toList with
  | '\\' :: 'p' :: '\x7b' :: rest =>
    if rest.getLast? = some '\x7d' then
      (querySet? (String.ofList rest.dropLast)).map fun s => .unicodeClass (toClass UnicodeClass.mk s)
    else none
  | _ => none

/-- The simple case folding the classes stand for, up to the choice of the code point folded
to: the first member of the class that holds `c`, or `c` itself when no class does. -/
def simpleKey (c : Nat) : Nat :=
  match simpleFoldingClasses.find? (·.contains c) with
  | some cl => cl.headD c
  | none => c

/-- The Unicode library of the tables. -/
def tables : UnicodeLibrary where
  classOf := UnicodeClass.mk
  foldSimple c := some (foldByClasses simpleFoldingClasses c)
  parse := parseProperty

end Unicode

end EcmaRegex
