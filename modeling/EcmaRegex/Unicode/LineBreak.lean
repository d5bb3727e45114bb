import EcmaRegex.Unicode.TableText
/-!
# Line breaking

Where a text may be broken across lines: the pair rules of the Unicode line breaking algorithm
over the line breaking classes of Unicode 15.1.

Each character has a class (`LineClass.of`).  The classes the algorithm leaves to the
application are resolved as its defaults say: ambiguous, surrogate, unknown and
complex-context characters count as alphabetic, conditional Japanese starters as nonstarters.
Reading the text from the left, the rules decide at each position between two characters from
the class of the character after it and a `BreakContext`, which is the class of the character
before it with its combining marks folded in, or one of the few contexts that reach back
further: an opening bracket, quotation mark, closing bracket, dash or zero width space followed
by spaces, a Hebrew letter followed by a hyphen, and a pair of regional indicators.

`BreakContext.step` is the whole rule set, `breakPositions` runs it along a text.  A position
right after a zero width joiner is no break unless the break there is forced.
-/

namespace EcmaRegex

namespace Unicode

/-- A line breaking class, as resolved for breaking.  `leadingSign` and `trailingSign` are the
signs written before and after a number, such as a currency sign and a percent sign. -/
inductive LineClass where
  | mandatory | carriageReturn | lineFeed | combiningMark | nextLine | wordJoiner
  | zeroWidthSpace | glue | space | zeroWidthJoiner | breakBoth | breakAfter | breakBefore
  | hyphen | contingent | closePunctuation | closeParenthesis | exclamation | inseparable
  | nonstarter | openPunctuation | quotation | infixSeparator | numeric | trailingSign | leadingSign
  | symbol | alphabetic | emojiBase | emojiModifier | hangulLV | hangulLVT | hebrewLetter
  | ideographic | jamoL | jamoV | jamoT | regionalIndicator
  deriving DecidableEq, Repr, Inhabited

namespace LineClass

/-- The classes in the order the class table numbers them. -/
def numbered : List LineClass :=
  [mandatory, carriageReturn, lineFeed, combiningMark, nextLine, wordJoiner, zeroWidthSpace,
    glue, space, zeroWidthJoiner, breakBoth, breakAfter, breakBefore, hyphen, contingent,
    closePunctuation, closeParenthesis, exclamation, inseparable, nonstarter, openPunctuation,
    quotation, infixSeparator, numeric, trailingSign, leadingSign, symbol, alphabetic, emojiBase,
    emojiModifier, hangulLV, hangulLVT, hebrewLetter, ideographic, jamoL, jamoV, jamoT,
    regionalIndicator]

/-- The code points whose class is not alphabetic, Hangul syllables apart, as table text: each
group is a range and the number of its class in `numbered`. -/
def tableText : String :=
  "0 8 3,9 9 B,A A 2,B C 0,D D 1,E 1F 3,20 20 8,21 21 11,22 22 15,24 24 19,25 25 18," ++
  "27 27 15,28 28 14,29 29 10,2B 2B 19,2C 2C 16,2D 2D D,2E 2E 16,2F 2F 1A,30 39 17," ++
  "3A 3B 16,3F 3F 11,5B 5B 14,5C 5C 19,5D 5D 10,7B 7B 14,7C 7C B,7D 7D F,7F 84 3," ++
  "85 85 4,86 9F 3,A0 A0 7,A1 A1 14,A2 A2 18,A3 A5 19,AB AB 15,AD AD B,B0 B0 18," ++
  "B1 B1 19,B4 B4 C,BB BB 15,BF BF 14,2C8 2C8 C,2CC 2CC C,2DF 2DF C,300 34E 3," ++
  "34F 34F 7,350 35B 3,35C 362 7,363 36F 3,37E 37E 16,483 489 3,589 589 16,58A 58A B," ++
  "58F 58F 19,591 5BD 3,5BE 5BE B,5BF 5BF 3,5C1 5C2 3,5C4 5C5 3,5C6 5C6 11,5C7 5C7 3," ++
  "5D0 5EA 20,5EF 5F2 20,609 60B 18,60C 60D 16,610 61A 3,61B 61B 11,61C 61C 3," ++
  "61D 61F 11,64B 65F 3,660 669 17,66A 66A 18,66B 66C 17,670 670 3,6D4 6D4 11," ++
  "6D6 6DC 3,6DF 6E4 3,6E7 6E8 3,6EA 6ED 3,6F0 6F9 17,711 711 3,730 74A 3,7A6 7B0 3," ++
  "7C0 7C9 17,7EB 7F3 3,7F8 7F8 16,7F9 7F9 11,7FD 7FD 3,7FE 7FF 19,816 819 3,81B 823 3," ++
  "825 827 3,829 82D 3,859 85B 3,898 89F 3,8CA 8E1 3,8E3 903 3,93A 93C 3,93E 94F 3," ++
  "951 957 3,962 963 3,964 965 B,966 96F 17,981 983 3,9BC 9BC 3,9BE 9C4 3,9C7 9C8 3," ++
  "9CB 9CD 3,9D7 9D7 3,9E2 9E3 3,9E6 9EF 17,9F2 9F3 18,9F9 9F9 18,9FB 9FB 19,9FE 9FE 3," ++
  "A01 A03 3,A3C A3C 3,A3E A42 3,A47 A48 3,A4B A4D 3,A51 A51 3,A66 A6F 17,A70 A71 3," ++
  "A75 A75 3,A81 A83 3,ABC ABC 3,ABE AC5 3,AC7 AC9 3,ACB ACD 3,AE2 AE3 3,AE6 AEF 17," ++
  "AF1 AF1 19,AFA AFF 3,B01 B03 3,B3C B3C 3,B3E B44 3,B47 B48 3,B4B B4D 3,B55 B57 3," ++
  "B62 B63 3,B66 B6F 17,B82 B82 3,BBE BC2 3,BC6 BC8 3,BCA BCD 3,BD7 BD7 3,BE6 BEF 17," ++
  "BF9 BF9 19,C00 C04 3,C3C C3C 3,C3E C44 3,C46 C48 3,C4A C4D 3,C55 C56 3,C62 C63 3," ++
  "C66 C6F 17,C77 C77 C,C81 C83 3,C84 C84 C,CBC CBC 3,CBE CC4 3,CC6 CC8 3,CCA CCD 3," ++
  "CD5 CD6 3,CE2 CE3 3,CE6 CEF 17,CF3 CF3 3,D00 D03 3,D3B D3C 3,D3E D44 3,D46 D48 3," ++
  "D4A D4D 3,D57 D57 3,D62 D63 3,D66 D6F 17,D79 D79 18,D81 D83 3,DCA DCA 3,DCF DD4 3," ++
  "DD6 DD6 3,DD8 DDF 3,DE6 DEF 17,DF2 DF3 3,E3F E3F 19,E50 E59 17,E5A E5B B,ED0 ED9 17," ++
  "F01 F04 C,F06 F07 C,F08 F08 7,F09 F0A C,F0B F0B B,F0C F0C 7,F0D F11 11,F12 F12 7," ++
  "F14 F14 11,F18 F19 3,F20 F29 17,F34 F34 B,F35 F35 3,F37 F37 3,F39 F39 3,F3A F3A 14," ++
  "F3B F3B F,F3C F3C 14,F3D F3D F,F3E F3F 3,F71 F7E 3,F7F F7F B,F80 F84 3,F85 F85 B," ++
  "F86 F87 3,F8D F97 3,F99 FBC 3,FBE FBF B,FC6 FC6 3,FD0 FD1 C,FD2 FD2 B,FD3 FD3 C," ++
  "FD9 FDA 7,1040 1049 17,104A 104B B,1090 1099 17,1100 115F 22,1160 11A7 23," ++
  "11A8 11FF 24,135D 135F 3,1361 1361 B,1400 1400 B,1680 1680 B,169B 169B 14," ++
  "169C 169C F,16EB 16ED B,1712 1715 3,1732 1734 3,1735 1736 B,1752 1753 3,1772 1773 3," ++
  "17D4 17D5 B,17D6 17D6 13,17D8 17D8 B,17DA 17DA B,17DB 17DB 19,17E0 17E9 17," ++
  "1802 1803 11,1804 1805 B,1806 1806 C,1808 1809 11,180B 180D 3,180E 180E 7," ++
  "180F 180F 3,1810 1819 17,1885 1886 3,18A9 18A9 3,1920 192B 3,1930 193B 3," ++
  "1944 1945 11,1946 194F 17,19D0 19D9 17,1A17 1A1B 3,1A7F 1A7F 3,1A80 1A89 17," ++
  "1A90 1A99 17,1AB0 1ACE 3,1B00 1B04 3,1B34 1B44 3,1B50 1B59 17,1B5A 1B5B B," ++
  "1B5D 1B60 B,1B6B 1B73 3,1B7D 1B7E B,1B80 1B82 3,1BA1 1BAD 3,1BB0 1BB9 17," ++
  "1BE6 1BF3 3,1C24 1C37 3,1C3B 1C3F B,1C40 1C49 17,1C50 1C59 17,1C7E 1C7F B," ++
  "1CD0 1CD2 3,1CD4 1CE8 3,1CED 1CED 3,1CF4 1CF4 3,1CF7 1CF9 3,1DC0 1DCC 3,1DCD 1DCD 7," ++
  "1DCE 1DFB 3,1DFC 1DFC 7,1DFD 1DFF 3,1FFD 1FFD C,2000 2006 B,2007 2007 7,2008 200A B," ++
  "200B 200B 6,200C 200C 3,200D 200D 9,200E 200F 3,2010 2010 B,2011 2011 7,2012 2013 B," ++
  "2014 2014 A,2018 2019 15,201A 201A 14,201B 201D 15,201E 201E 14,201F 201F 15," ++
  "2024 2026 12,2027 2027 B,2028 2029 0,202A 202E 3,202F 202F 7,2030 2037 18," ++
  "2039 203A 15,203C 203D 13,2044 2044 16,2045 2045 14,2046 2046 F,2047 2049 13," ++
  "2056 2056 B,2057 2057 18,2058 205B B,205D 205F B,2060 2060 5,2066 206F 3," ++
  "207D 207D 14,207E 207E F,208D 208D 14,208E 208E F,20A0 20A6 19,20A7 20A7 18," ++
  "20A8 20B5 19,20B6 20B6 18,20B7 20BA 19,20BB 20BB 18,20BC 20BD 19,20BE 20BE 18," ++
  "20BF 20BF 19,20C0 20C0 18,20C1 20CF 19,20D0 20F0 3,2103 2103 18,2109 2109 18," ++
  "2116 2116 19,2212 2213 19,22EF 22EF 12,2308 2308 14,2309 2309 F,230A 230A 14," ++
  "230B 230B F,231A 231B 21,2329 2329 14,232A 232A F,23F0 23F3 21,2600 2603 21," ++
  "2614 2615 21,2618 2618 21,261A 261C 21,261D 261D 1C,261E 261F 21,2639 263B 21," ++
  "2668 2668 21,267F 267F 21,26BD 26C8 21,26CD 26CD 21,26CF 26D1 21,26D3 26D4 21," ++
  "26D8 26D9 21,26DC 26DC 21,26DF 26E1 21,26EA 26EA 21,26F1 26F5 21,26F7 26F8 21," ++
  "26F9 26F9 1C,26FA 26FA 21,26FD 2704 21,2708 2709 21,270A 270D 1C,275B 2760 15," ++
  "2762 2763 11,2764 2764 21,2768 2768 14,2769 2769 F,276A 276A 14,276B 276B F," ++
  "276C 276C 14,276D 276D F,276E 276E 14,276F 276F F,2770 2770 14,2771 2771 F," ++
  "2772 2772 14,2773 2773 F,2774 2774 14,2775 2775 F,27C5 27C5 14,27C6 27C6 F," ++
  "27E6 27E6 14,27E7 27E7 F,27E8 27E8 14,27E9 27E9 F,27EA 27EA 14,27EB 27EB F," ++
  "27EC 27EC 14,27ED 27ED F,27EE 27EE 14,27EF 27EF F,2983 2983 14,2984 2984 F," ++
  "2985 2985 14,2986 2986 F,2987 2987 14,2988 2988 F,2989 2989 14,298A 298A F," ++
  "298B 298B 14,298C 298C F,298D 298D 14,298E 298E F,298F 298F 14,2990 2990 F," ++
  "2991 2991 14,2992 2992 F,2993 2993 14,2994 2994 F,2995 2995 14,2996 2996 F," ++
  "2997 2997 14,2998 2998 F,29D8 29D8 14,29D9 29D9 F,29DA 29DA 14,29DB 29DB F," ++
  "29FC 29FC 14,29FD 29FD F,2CEF 2CF1 3,2CF9 2CF9 11,2CFA 2CFC B,2CFE 2CFE 11," ++
  "2CFF 2CFF B,2D70 2D70 B,2D7F 2D7F 3,2DE0 2DFF 3,2E00 2E0D 15,2E0E 2E15 B," ++
  "2E17 2E17 B,2E18 2E18 14,2E19 2E19 B,2E1C 2E1D 15,2E20 2E21 15,2E22 2E22 14," ++
  "2E23 2E23 F,2E24 2E24 14,2E25 2E25 F,2E26 2E26 14,2E27 2E27 F,2E28 2E28 14," ++
  "2E29 2E29 F,2E2A 2E2D B,2E2E 2E2E 11,2E30 2E31 B,2E33 2E34 B,2E3A 2E3B A," ++
  "2E3C 2E3E B,2E40 2E41 B,2E42 2E42 14,2E43 2E4A B,2E4C 2E4C B,2E4E 2E4F B," ++
  "2E53 2E54 11,2E55 2E55 14,2E56 2E56 F,2E57 2E57 14,2E58 2E58 F,2E59 2E59 14," ++
  "2E5A 2E5A F,2E5B 2E5B 14,2E5C 2E5C F,2E5D 2E5D B,2E80 2E99 21,2E9B 2EF3 21," ++
  "2F00 2FD5 21,2FF0 2FFF 21,3000 3000 B,3001 3002 F,3003 3004 21,3005 3005 13," ++
  "3006 3007 21,3008 3008 14,3009 3009 F,300A 300A 14,300B 300B F,300C 300C 14," ++
  "300D 300D F,300E 300E 14,300F 300F F,3010 3010 14,3011 3011 F,3012 3013 21," ++
  "3014 3014 14,3015 3015 F,3016 3016 14,3017 3017 F,3018 3018 14,3019 3019 F," ++
  "301A 301A 14,301B 301B F,301C 301C 13,301D 301D 14,301E 301F F,3020 3029 21," ++
  "302A 302F 3,3030 3034 21,3035 3035 3,3036 303A 21,303B 303C 13,303D 303F 21," ++
  "3041 3041 13,3042 3042 21,3043 3043 13,3044 3044 21,3045 3045 13,3046 3046 21," ++
  "3047 3047 13,3048 3048 21,3049 3049 13,304A 3062 21,3063 3063 13,3064 3082 21," ++
  "3083 3083 13,3084 3084 21,3085 3085 13,3086 3086 21,3087 3087 13,3088 308D 21," ++
  "308E 308E 13,308F 3094 21,3095 3096 13,3099 309A 3,309B 309E 13,309F 309F 21," ++
  "30A0 30A1 13,30A2 30A2 21,30A3 30A3 13,30A4 30A4 21,30A5 30A5 13,30A6 30A6 21," ++
  "30A7 30A7 13,30A8 30A8 21,30A9 30A9 13,30AA 30C2 21,30C3 30C3 13,30C4 30E2 21," ++
  "30E3 30E3 13,30E4 30E4 21,30E5 30E5 13,30E6 30E6 21,30E7 30E7 13,30E8 30ED 21," ++
  "30EE 30EE 13,30EF 30F4 21,30F5 30F6 13,30F7 30FA 21,30FB 30FE 13,30FF 30FF 21," ++
  "3105 312F 21,3131 318E 21,3190 31E3 21,31EF 31EF 21,31F0 31FF 13,3200 321E 21," ++
  "3220 3247 21,3250 4DBF 21,4E00 A014 21,A015 A015 13,A016 A48C 21,A490 A4C6 21," ++
  "A4FE A4FF B,A60D A60D B,A60E A60E 11,A60F A60F B,A620 A629 17,A66F A672 3," ++
  "A674 A67D 3,A69E A69F 3,A6F0 A6F1 3,A6F3 A6F7 B,A802 A802 3,A806 A806 3,A80B A80B 3," ++
  "A823 A827 3,A82C A82C 3,A838 A838 18,A874 A875 C,A876 A877 11,A880 A881 3," ++
  "A8B4 A8C5 3,A8CE A8CF B,A8D0 A8D9 17,A8E0 A8F1 3,A8FC A8FC C,A8FF A8FF 3," ++
  "A900 A909 17,A926 A92D 3,A92E A92F B,A947 A953 3,A960 A97C 22,A980 A983 3," ++
  "A9B3 A9C0 3,A9C7 A9C9 B,A9D0 A9D9 17,A9F0 A9F9 17,AA29 AA36 3,AA43 AA43 3," ++
  "AA4C AA4D 3,AA50 AA59 17,AA5D AA5F B,AAEB AAEF 3,AAF0 AAF1 B,AAF5 AAF6 3," ++
  "ABE3 ABEA 3,ABEB ABEB B,ABEC ABED 3,ABF0 ABF9 17,D7B0 D7C6 23,D7CB D7FB 24," ++
  "F900 FAFF 21,FB1D FB1D 20,FB1E FB1E 3,FB1F FB28 20,FB2A FB36 20,FB38 FB3C 20," ++
  "FB3E FB3E 20,FB40 FB41 20,FB43 FB44 20,FB46 FB4F 20,FD3E FD3E F,FD3F FD3F 14," ++
  "FDFC FDFC 18,FE00 FE0F 3,FE10 FE10 16,FE11 FE12 F,FE13 FE14 16,FE15 FE16 11," ++
  "FE17 FE17 14,FE18 FE18 F,FE19 FE19 12,FE20 FE2F 3,FE30 FE34 21,FE35 FE35 14," ++
  "FE36 FE36 F,FE37 FE37 14,FE38 FE38 F,FE39 FE39 14,FE3A FE3A F,FE3B FE3B 14," ++
  "FE3C FE3C F,FE3D FE3D 14,FE3E FE3E F,FE3F FE3F 14,FE40 FE40 F,FE41 FE41 14," ++
  "FE42 FE42 F,FE43 FE43 14,FE44 FE44 F,FE45 FE46 21,FE47 FE47 14,FE48 FE48 F," ++
  "FE49 FE4F 21,FE50 FE50 F,FE51 FE51 21,FE52 FE52 F,FE54 FE55 13,FE56 FE57 11," ++
  "FE58 FE58 21,FE59 FE59 14,FE5A FE5A F,FE5B FE5B 14,FE5C FE5C F,FE5D FE5D 14," ++
  "FE5E FE5E F,FE5F FE66 21,FE68 FE68 21,FE69 FE69 19,FE6A FE6A 18,FE6B FE6B 21," ++
  "FEFF FEFF 5,FF01 FF01 11,FF02 FF03 21,FF04 FF04 19,FF05 FF05 18,FF06 FF07 21," ++
  "FF08 FF08 14,FF09 FF09 F,FF0A FF0B 21,FF0C FF0C F,FF0D FF0D 21,FF0E FF0E F," ++
  "FF0F FF19 21,FF1A FF1B 13,FF1C FF1E 21,FF1F FF1F 11,FF20 FF3A 21,FF3B FF3B 14," ++
  "FF3C FF3C 21,FF3D FF3D F,FF3E FF5A 21,FF5B FF5B 14,FF5C FF5C 21,FF5D FF5D F," ++
  "FF5E FF5E 21,FF5F FF5F 14,FF60 FF61 F,FF62 FF62 14,FF63 FF64 F,FF65 FF65 13," ++
  "FF66 FF66 21,FF67 FF70 13,FF71 FF9D 21,FF9E FF9F 13,FFA0 FFBE 21,FFC2 FFC7 21," ++
  "FFCA FFCF 21,FFD2 FFD7 21,FFDA FFDC 21,FFE0 FFE0 18,FFE1 FFE1 19,FFE2 FFE4 21," ++
  "FFE5 FFE6 19,FFF9 FFFB 3,FFFC FFFC E,10100 10102 B,101FD 101FD 3,102E0 102E0 3," ++
  "10376 1037A 3,1039F 1039F B,103D0 103D0 B,104A0 104A9 17,10857 10857 B," ++
  "1091F 1091F B,10A01 10A03 3,10A05 10A06 3,10A0C 10A0F 3,10A38 10A3A 3,10A3F 10A3F 3," ++
  "10A50 10A57 B,10AE5 10AE6 3,10AF0 10AF5 B,10AF6 10AF6 12,10B39 10B3F B," ++
  "10D24 10D27 3,10D30 10D39 17,10EAB 10EAC 3,10EAD 10EAD B,10EFD 10EFF 3," ++
  "10F46 10F50 3,10F82 10F85 3,11000 11002 3,11038 11046 3,11047 11048 B," ++
  "11066 1106F 17,11070 11070 3,11073 11074 3,1107F 11082 3,110B0 110BA 3," ++
  "110BE 110C1 B,110C2 110C2 3,110F0 110F9 17,11100 11102 3,11127 11134 3," ++
  "11136 1113F 17,11140 11143 B,11145 11146 3,11173 11173 3,11175 11175 C," ++
  "11180 11182 3,111B3 111C0 3,111C5 111C6 B,111C8 111C8 B,111C9 111CC 3,111CE 111CF 3," ++
  "111D0 111D9 17,111DB 111DB C,111DD 111DF B,1122C 11237 3,11238 11239 B," ++
  "1123B 1123C B,1123E 1123E 3,11241 11241 3,112A9 112A9 B,112DF 112EA 3," ++
  "112F0 112F9 17,11300 11303 3,1133B 1133C 3,1133E 11344 3,11347 11348 3," ++
  "1134B 1134D 3,11357 11357 3,11362 11363 3,11366 1136C 3,11370 11374 3,11435 11446 3," ++
  "1144B 1144E B,11450 11459 17,1145A 1145B B,1145E 1145E 3,114B0 114C3 3," ++
  "114D0 114D9 17,115AF 115B5 3,115B8 115C0 3,115C1 115C1 C,115C2 115C3 B," ++
  "115C4 115C5 11,115C9 115D7 B,115DC 115DD 3,11630 11640 3,11641 11642 B," ++
  "11650 11659 17,11660 1166C C,116AB 116B7 3,116C0 116C9 17,11730 11739 17," ++
  "1173C 1173E B,1182C 1183A 3,118E0 118E9 17,11930 11935 3,11937 11938 3," ++
  "1193B 1193E 3,11940 11940 3,11942 11943 3,11944 11946 B,11950 11959 17," ++
  "119D1 119D7 3,119DA 119E0 3,119E2 119E2 C,119E4 119E4 3,11A01 11A0A 3,11A33 11A39 3," ++
  "11A3B 11A3E 3,11A3F 11A3F C,11A41 11A44 B,11A45 11A45 C,11A47 11A47 3,11A51 11A5B 3," ++
  "11A8A 11A99 3,11A9A 11A9C B,11A9E 11AA0 C,11AA1 11AA2 B,11B00 11B09 C,11C2F 11C36 3," ++
  "11C38 11C3F 3,11C41 11C45 B,11C50 11C59 17,11C70 11C70 C,11C71 11C71 11," ++
  "11C92 11CA7 3,11CA9 11CB6 3,11D31 11D36 3,11D3A 11D3A 3,11D3C 11D3D 3,11D3F 11D45 3," ++
  "11D47 11D47 3,11D50 11D59 17,11D8A 11D8E 3,11D90 11D91 3,11D93 11D97 3," ++
  "11DA0 11DA9 17,11EF3 11EF6 3,11F00 11F01 3,11F03 11F03 3,11F34 11F3A 3," ++
  "11F3E 11F42 3,11F43 11F44 B,11F45 11F4F 21,11F50 11F59 17,11FDD 11FE0 18," ++
  "11FFF 11FFF B,12470 12474 B,13258 1325A 14,1325B 1325D F,13282 13282 F," ++
  "13286 13286 14,13287 13287 F,13288 13288 14,13289 13289 F,13379 13379 14," ++
  "1337A 1337B F,13430 13436 7,13437 13437 14,13438 13438 F,13439 1343B 7," ++
  "1343C 1343C 14,1343D 1343D F,1343E 1343E 14,1343F 1343F F,13440 13440 3," ++
  "13447 13455 3,145CE 145CE 14,145CF 145CF F,16A60 16A69 17,16A6E 16A6F B," ++
  "16AC0 16AC9 17,16AF0 16AF4 3,16AF5 16AF5 B,16B30 16B36 3,16B37 16B39 B," ++
  "16B44 16B44 B,16B50 16B59 17,16E97 16E98 B,16F4F 16F4F 3,16F51 16F87 3," ++
  "16F8F 16F92 3,16FE0 16FE3 13,16FE4 16FE4 7,16FF0 16FF1 3,17000 187F7 21," ++
  "18800 18AFF 21,18D00 18D08 21,1B000 1B122 21,1B132 1B132 13,1B150 1B152 13," ++
  "1B155 1B155 13,1B164 1B167 13,1B170 1B2FB 21,1BC9D 1BC9E 3,1BC9F 1BC9F B," ++
  "1BCA0 1BCA3 3,1CF00 1CF2D 3,1CF30 1CF46 3,1D165 1D169 3,1D16D 1D182 3,1D185 1D18B 3," ++
  "1D1AA 1D1AD 3,1D242 1D244 3,1D7CE 1D7FF 17,1DA00 1DA36 3,1DA3B 1DA6C 3," ++
  "1DA75 1DA75 3,1DA84 1DA84 3,1DA87 1DA8A B,1DA9B 1DA9F 3,1DAA1 1DAAF 3,1E000 1E006 3," ++
  "1E008 1E018 3,1E01B 1E021 3,1E023 1E024 3,1E026 1E02A 3,1E08F 1E08F 3,1E130 1E136 3," ++
  "1E140 1E149 17,1E2AE 1E2AE 3,1E2EC 1E2EF 3,1E2F0 1E2F9 17,1E2FF 1E2FF 19," ++
  "1E4EC 1E4EF 3,1E4F0 1E4F9 17,1E8D0 1E8D6 3,1E944 1E94A 3,1E950 1E959 17," ++
  "1E95E 1E95F 14,1ECAC 1ECAC 18,1ECB0 1ECB0 18,1F000 1F0FF 21,1F10D 1F10F 21," ++
  "1F16D 1F16F 21,1F1AD 1F1E5 21,1F1E6 1F1FF 25,1F200 1F384 21,1F385 1F385 1C," ++
  "1F386 1F39B 21,1F39E 1F3B4 21,1F3B7 1F3BB 21,1F3BD 1F3C1 21,1F3C2 1F3C4 1C," ++
  "1F3C5 1F3C6 21,1F3C7 1F3C7 1C,1F3C8 1F3C9 21,1F3CA 1F3CC 1C,1F3CD 1F3FA 21," ++
  "1F3FB 1F3FF 1D,1F400 1F441 21,1F442 1F443 1C,1F444 1F445 21,1F446 1F450 1C," ++
  "1F451 1F465 21,1F466 1F478 1C,1F479 1F47B 21,1F47C 1F47C 1C,1F47D 1F480 21," ++
  "1F481 1F483 1C,1F484 1F484 21,1F485 1F487 1C,1F488 1F48E 21,1F48F 1F48F 1C," ++
  "1F490 1F490 21,1F491 1F491 1C,1F492 1F49F 21,1F4A1 1F4A1 21,1F4A3 1F4A3 21," ++
  "1F4A5 1F4A9 21,1F4AA 1F4AA 1C,1F4AB 1F4AE 21,1F4B0 1F4B0 21,1F4B3 1F4FF 21," ++
  "1F507 1F516 21,1F525 1F531 21,1F54A 1F573 21,1F574 1F575 1C,1F576 1F579 21," ++
  "1F57A 1F57A 1C,1F57B 1F58F 21,1F590 1F590 1C,1F591 1F594 21,1F595 1F596 1C," ++
  "1F597 1F5D3 21,1F5DC 1F5F3 21,1F5FA 1F644 21,1F645 1F647 1C,1F648 1F64A 21," ++
  "1F64B 1F64F 1C,1F676 1F678 15,1F679 1F67B 13,1F680 1F6A2 21,1F6A3 1F6A3 1C," ++
  "1F6A4 1F6B3 21,1F6B4 1F6B6 1C,1F6B7 1F6BF 21,1F6C0 1F6C0 1C,1F6C1 1F6CB 21," ++
  "1F6CC 1F6CC 1C,1F6CD 1F6FF 21,1F774 1F77F 21,1F7D5 1F7FF 21,1F80C 1F80F 21," ++
  "1F848 1F84F 21,1F85A 1F85F 21,1F888 1F88F 21,1F8AE 1F8FF 21,1F90C 1F90C 1C," ++
  "1F90D 1F90E 21,1F90F 1F90F 1C,1F910 1F917 21,1F918 1F91F 1C,1F920 1F925 21," ++
  "1F926 1F926 1C,1F927 1F92F 21,1F930 1F939 1C,1F93A 1F93B 21,1F93C 1F93E 1C," ++
  "1F93F 1F976 21,1F977 1F977 1C,1F978 1F9B4 21,1F9B5 1F9B6 1C,1F9B7 1F9B7 21," ++
  "1F9B8 1F9B9 1C,1F9BA 1F9BA 21,1F9BB 1F9BB 1C,1F9BC 1F9CC 21,1F9CD 1F9CF 1C," ++
  "1F9D0 1F9D0 21,1F9D1 1F9DD 1C,1F9DE 1F9FF 21,1FA54 1FAC2 21,1FAC3 1FAC5 1C," ++
  "1FAC6 1FAEF 21,1FAF0 1FAF8 1C,1FAF9 1FAFF 21,1FBF0 1FBF9 17,1FC00 1FFFD 21," ++
  "20000 2FFFD 21,30000 3FFFD 21,E0001 E0001 3,E0020 E007F 3,E0100 E01EF 3," ++
  "E022A E022E 3,E0230 E0231 3,E0233 E0237 3,E0240 E0249 17,E0343 E0346 3," ++
  "E0350 E0351 3,E0353 E0353 3,E0384 E038A 3,E038E E0392 3,E0393 E0394 B," ++
  "E0395 E039F 21,E03A0 E03A9 17"

/-- The ranges of the class table with their classes. -/
def table : List (Nat × Nat × LineClass) :=
  (TableText.groups tableText).map fun
    | [lo, hi, k] => (lo, hi, numbered.getD k alphabetic)
    | _ => (0, 0, alphabetic)

/-- The class of a code point.  A precomposed Hangul syllable is of class LV when it has no
final consonant, that is when its offset from U+AC00 is a multiple of 28, and LVT otherwise. -/
def ofCodePoint (n : Nat) : LineClass :=
  if 0xAC00 ≤ n && n ≤ 0xD7A3 then
    if (n - 0xAC00) % 28 = 0 then hangulLV else hangulLVT
  else
    match table.find? (fun (lo, hi, _) => lo ≤ n && n ≤ hi) with
    | some (_, _, c) => c
    | none => alphabetic

/-- The class of a character. -/
def of (c : Char) : LineClass := ofCodePoint c.toNat

/-- Whether the class ends a line by itself. -/
def isHardBreak (c : LineClass) : Bool :=
  c == mandatory || c == carriageReturn || c == lineFeed || c == nextLine

/-- Whether the class attaches to the character before it. -/
def isMark (c : LineClass) : Bool := c == combiningMark || c == zeroWidthJoiner

/-- Alphabetic or Hebrew letters. -/
def isLetter (c : LineClass) : Bool := c == alphabetic || c == hebrewLetter

/-- Ideographs and emoji bases and modifiers. -/
def isIdeographLike (c : LineClass) : Bool :=
  c == ideographic || c == emojiBase || c == emojiModifier

/-- The classes of Korean syllables and jamo. -/
def isKorean (c : LineClass) : Bool :=
  c == jamoL || c == jamoV || c == jamoT || c == hangulLV || c == hangulLVT

end LineClass

/-- What the text before a position tells about breaking there. -/
inductive BreakContext where
  /-- The start of the text. -/
  | start
  /-- After a character of the class, with the marks that follow it. -/
  | after (c : LineClass)
  /-- After a zero width space and spaces. -/
  | zeroWidthSpaces
  /-- After an opening bracket and spaces. -/
  | openSpaces
  /-- After a quotation mark and spaces. -/
  | quoteSpaces
  /-- After closing punctuation and spaces. -/
  | closeSpaces
  /-- After a closing parenthesis and spaces. -/
  | closeParenSpaces
  /-- After a dash that breaks on both sides and spaces. -/
  | dashSpaces
  /-- After a Hebrew letter and a hyphen or break-after character. -/
  | hebrewHyphen
  /-- After a pair of regional indicators. -/
  | indicatorPair
  deriving DecidableEq, Repr, Inhabited

/-- The decision at one position: whether a break is allowed there, whether it is forced, and
the context at the next position. -/
structure BreakStep where
  allowed : Bool
  forced : Bool
  next : BreakContext
  deriving Repr

namespace BreakContext

/-- The context a character of the class starts; a mark with nothing to attach to counts as
alphabetic. -/
def fresh (c : LineClass) : BreakContext :=
  if c.isMark then after .alphabetic else after c

/-- The class of the character just before the position. -/
def last : BreakContext → LineClass
  | start => .alphabetic
  | after c => c
  | zeroWidthSpaces | openSpaces | quoteSpaces | closeSpaces | closeParenSpaces | dashSpaces =>
    .space
  | hebrewHyphen => .hyphen
  | indicatorPair => .regionalIndicator

/-- The context after one more space. -/
def withSpace : BreakContext → BreakContext
  | after .zeroWidthSpace | zeroWidthSpaces => zeroWidthSpaces
  | after .openPunctuation | openSpaces => openSpaces
  | after .quotation | quoteSpaces => quoteSpaces
  | after .closePunctuation | closeSpaces => closeSpaces
  | after .closeParenthesis | closeParenSpaces => closeParenSpaces
  | after .breakBoth | dashSpaces => dashSpaces
  | _ => after .space

/-- Whether the context is a zero width space, with or without spaces after it. -/
def afterZeroWidthSpace (x : BreakContext) : Bool :=
  x == after .zeroWidthSpace || x == zeroWidthSpaces

/-- Whether the context is an opening bracket, with or without spaces after it. -/
def afterOpen (x : BreakContext) : Bool := x == after .openPunctuation || x == openSpaces

/-- Whether the context is a quotation mark, with or without spaces after it. -/
def afterQuote (x : BreakContext) : Bool := x == after .quotation || x == quoteSpaces

/-- Whether the context is closing punctuation or a closing parenthesis, with or without
spaces after it. -/
def afterClose (x : BreakContext) : Bool :=
  x == after .closePunctuation || x == closeSpaces ||
    x == after .closeParenthesis || x == closeParenSpaces

/-- Whether the context is a dash that breaks on both sides, with or without spaces after it. -/
def afterDash (x : BreakContext) : Bool := x == after .breakBoth || x == dashSpaces

/-- Whether the two classes are a pair that numbers keep together: a digit after a sign,
prefix, separator or digit, and a postfix or prefix after a digit or closing punctuation. -/
def numberPair (l r : LineClass) : Bool :=
  ((l == .closePunctuation || l == .closeParenthesis || l == .numeric) &&
      (r == .trailingSign || r == .leadingSign)) ||
    ((l == .trailingSign || l == .leadingSign) && (r == .openPunctuation || r == .numeric)) ||
    ((l == .hyphen || l == .infixSeparator || l == .numeric || l == .symbol) && r == .numeric)

/-- Whether the two classes are a pair inside a Korean syllable block, or a block with a
prefix before or a postfix after it. -/
def koreanPair (l r : LineClass) : Bool :=
  (l == .jamoL && (r == .jamoL || r == .jamoV || r == .hangulLV || r == .hangulLVT)) ||
    ((l == .jamoV || l == .hangulLV) && (r == .jamoV || r == .jamoT)) ||
    ((l == .jamoT || l == .hangulLVT) && r == .jamoT) ||
    (l.isKorean && r == .trailingSign) || (l == .leadingSign && r.isKorean)

/-- Whether a break is allowed between a character of class `l` in context `x` and one of
class `r`, by the rules that follow the treatment of hard breaks, spaces, zero width spaces
and marks. -/
def allows (x : BreakContext) (l r : LineClass) : Bool :=
  -- Word joiners and glue hold on both sides; glue also after anything but spaces and hyphens.
  if r == .wordJoiner || l == .wordJoiner || l == .glue then false
  else if r == .glue && l != .space && l != .breakAfter && l != .hyphen then false
  -- No break before closing punctuation, exclamations, separators or slashes.
  else if r == .closePunctuation || r == .closeParenthesis || r == .exclamation ||
    r == .infixSeparator || r == .symbol then false
  -- No break after an opening bracket, even after spaces, nor in quote-bracket, close-nonstarter
  -- and dash-dash pairs with spaces between.
  else if x.afterOpen then false
  else if x.afterQuote && r == .openPunctuation then false
  else if x.afterClose && r == .nonstarter then false
  else if x.afterDash && r == .breakBoth then false
  -- Otherwise a space ends a word.
  else if l == .space then true
  else if r == .quotation || l == .quotation then false
  else if r == .contingent || l == .contingent then true
  else if r == .breakAfter || r == .hyphen || r == .nonstarter || l == .breakBefore then false
  else if x == hebrewHyphen then false
  else if l == .symbol && r == .hebrewLetter then false
  else if r == .inseparable then false
  -- Letters, digits, affixes and ideographs.
  else if (l.isLetter && r == .numeric) || (l == .numeric && r.isLetter) then false
  else if l == .leadingSign && r.isIdeographLike then false
  else if l.isIdeographLike && r == .trailingSign then false
  else if (l == .leadingSign || l == .trailingSign) && r.isLetter then false
  else if l.isLetter && (r == .leadingSign || r == .trailingSign) then false
  else if numberPair l r || koreanPair l r then false
  else if l.isLetter && r.isLetter then false
  else if l == .infixSeparator && r.isLetter then false
  else if (l.isLetter || l == .numeric) && r == .openPunctuation then false
  else if l == .closeParenthesis && (r.isLetter || r == .numeric) then false
  -- Regional indicators pair up; an emoji base holds its modifier.
  else if x == after .regionalIndicator && r == .regionalIndicator then false
  else if l == .emojiBase && r == .emojiModifier then false
  else true

/-- The decision at a position in context `x` before a character of class `c`. -/
def step (x : BreakContext) (c : LineClass) : BreakStep :=
  if x == start then ⟨false, false, fresh c⟩
  else
    let l := x.last
    if l == .mandatory || l == .lineFeed || l == .nextLine then ⟨true, true, fresh c⟩
    else if l == .carriageReturn then
      if c == .lineFeed then ⟨false, false, after .lineFeed⟩ else ⟨true, true, fresh c⟩
    else if c.isHardBreak then ⟨false, false, after c⟩
    else if c == .space then ⟨false, false, x.withSpace⟩
    else if c == .zeroWidthSpace then ⟨false, false, after .zeroWidthSpace⟩
    else if x.afterZeroWidthSpace then ⟨true, false, fresh c⟩
    else if c.isMark && l != .space then ⟨false, false, x⟩
    else
      let r := if c.isMark then LineClass.alphabetic else c
      let next :=
        if x == after .hebrewLetter && (r == .hyphen || r == .breakAfter) then hebrewHyphen
        else if x == after .regionalIndicator && r == .regionalIndicator then indicatorPair
        else after r
      ⟨allows x l r, false, next⟩

end BreakContext

/-- The break positions of a text, as character indices, from context `x` at index `i`;
`joined` tells whether the character before is a zero width joiner.  The end of a text is a
break position unless the text is empty. -/
def breakPositionsFrom (x : BreakContext) (joined : Bool) (i : Nat) : List Char → List Nat
  | [] => if x == .start then [] else [i]
  | ch :: rest =>
    let c := LineClass.of ch
    let s := x.step c
    let tail := breakPositionsFrom s.next (c == .zeroWidthJoiner) (i + 1) rest
    if s.allowed && (!joined || s.forced) then i :: tail else tail

/-- The positions, as character indices, at which a text may be broken. -/
def breakPositions (cs : List Char) : List Nat := breakPositionsFrom .start false 0 cs

end Unicode

end EcmaRegex
