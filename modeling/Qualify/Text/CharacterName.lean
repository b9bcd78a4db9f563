/-!
# Names of characters

The Unicode names of the letters, punctuation marks and symbols that are in common use. A name is
looked up without regard to case.
-/

namespace Qualify.Text

def characterNamesPart1 : List (Nat × String) := [
  (0x0, "NUL"), (0x0, "NULL"), (0x8, "BACKSPACE"), (0x9, "CHARACTER TABULATION"), (0x9, "TAB"),
  (0xA, "LF"), (0xA, "LINE FEED"), (0xA, "NEW LINE"), (0xB, "LINE TABULATION"), (0xC, "FORM FEED"),
  (0xD, "CARRIAGE RETURN"), (0xD, "CR"), (0x1B, "ESC"), (0x1B, "ESCAPE"), (0x20, "SPACE"),
  (0x21, "EXCLAMATION MARK"), (0x22, "QUOTATION MARK"), (0x23, "NUMBER SIGN"),
  (0x24, "DOLLAR SIGN"), (0x25, "PERCENT SIGN"), (0x26, "AMPERSAND"), (0x27, "APOSTROPHE"),
  (0x28, "LEFT PARENTHESIS"), (0x29, "RIGHT PARENTHESIS"), (0x2A, "ASTERISK"), (0x2B, "PLUS SIGN"),
  (0x2C, "COMMA"), (0x2D, "HYPHEN-MINUS"), (0x2E, "FULL STOP"), (0x2F, "SOLIDUS"),
  (0x30, "DIGIT ZERO"), (0x31, "DIGIT ONE"), (0x32, "DIGIT TWO"), (0x33, "DIGIT THREE"),
  (0x34, "DIGIT FOUR"), (0x35, "DIGIT FIVE"), (0x36, "DIGIT SIX"), (0x37, "DIGIT SEVEN"),
  (0x38, "DIGIT EIGHT"), (0x39, "DIGIT NINE"), (0x3A, "COLON"), (0x3B, "SEMICOLON"),
  (0x3C, "LESS-THAN SIGN"), (0x3D, "EQUALS SIGN"), (0x3E, "GREATER-THAN SIGN"),
  (0x3F, "QUESTION MARK"), (0x40, "COMMERCIAL AT"), (0x5B, "LEFT SQUARE BRACKET"),
  (0x5C, "REVERSE SOLIDUS"), (0x5D, "RIGHT SQUARE BRACKET"), (0x5E, "CIRCUMFLEX ACCENT"),
  (0x5F, "LOW LINE"), (0x60, "GRAVE ACCENT"), (0x7B, "LEFT CURLY BRACKET"), (0x7C, "VERTICAL LINE"),
  (0x7D, "RIGHT CURLY BRACKET"), (0x7E, "TILDE"), (0x7F, "DEL"), (0x7F, "DELETE"),
  (0x85, "NEXT LINE"), (0xA0, "NBSP"), (0xA0, "NO-BREAK SPACE"),
  (0xA1, "INVERTED EXCLAMATION MARK"), (0xA2, "CENT SIGN"), (0xA3, "POUND SIGN"),
  (0xA4, "CURRENCY SIGN"), (0xA5, "YEN SIGN"), (0xA6, "BROKEN BAR"), (0xA7, "SECTION SIGN"),
  (0xA8, "DIAERESIS"), (0xA9, "COPYRIGHT SIGN"), (0xAA, "FEMININE ORDINAL INDICATOR"),
  (0xAB, "LEFT-POINTING DOUBLE ANGLE QUOTATION MARK"), (0xAC, "NOT SIGN"), (0xAD, "SOFT HYPHEN"),
  (0xAE, "REGISTERED SIGN"), (0xAF, "MACRON"), (0xB0, "DEGREE SIGN"), (0xB1, "PLUS-MINUS SIGN"),
  (0xB2, "SUPERSCRIPT TWO"), (0xB3, "SUPERSCRIPT THREE"), (0xB4, "ACUTE ACCENT"),
  (0xB5, "MICRO SIGN"), (0xB6, "PILCROW SIGN"), (0xB7, "MIDDLE DOT"), (0xB8, "CEDILLA"),
  (0xB9, "SUPERSCRIPT ONE"), (0xBA, "MASCULINE ORDINAL INDICATOR"),
  (0xBB, "RIGHT-POINTING DOUBLE ANGLE QUOTATION MARK"), (0xBC, "VULGAR FRACTION ONE QUARTER"),
  (0xBD, "VULGAR FRACTION ONE HALF"), (0xBE, "VULGAR FRACTION THREE QUARTERS"),
  (0xBF, "INVERTED QUESTION MARK"), (0xC0, "LATIN CAPITAL LETTER A WITH GRAVE"),
  (0xC1, "LATIN CAPITAL LETTER A WITH ACUTE"), (0xC2, "LATIN CAPITAL LETTER A WITH CIRCUMFLEX"),
  (0xC3, "LATIN CAPITAL LETTER A WITH TILDE"), (0xC4, "LATIN CAPITAL LETTER A WITH DIAERESIS"),
  (0xC5, "LATIN CAPITAL LETTER A WITH RING ABOVE"), (0xC6, "LATIN CAPITAL LETTER AE"),
  (0xC7, "LATIN CAPITAL LETTER C WITH CEDILLA"), (0xC8, "LATIN CAPITAL LETTER E WITH GRAVE"),
  (0xC9, "LATIN CAPITAL LETTER E WITH ACUTE"), (0xCA, "LATIN CAPITAL LETTER E WITH CIRCUMFLEX"),
  (0xCB, "LATIN CAPITAL LETTER E WITH DIAERESIS"), (0xCC, "LATIN CAPITAL LETTER I WITH GRAVE"),
  (0xCD, "LATIN CAPITAL LETTER I WITH ACUTE"), (0xCE, "LATIN CAPITAL LETTER I WITH CIRCUMFLEX"),
  (0xCF, "LATIN CAPITAL LETTER I WITH DIAERESIS"), (0xD0, "LATIN CAPITAL LETTER ETH"),
  (0xD1, "LATIN CAPITAL LETTER N WITH TILDE"), (0xD2, "LATIN CAPITAL LETTER O WITH GRAVE"),
  (0xD3, "LATIN CAPITAL LETTER O WITH ACUTE"), (0xD4, "LATIN CAPITAL LETTER O WITH CIRCUMFLEX"),
  (0xD5, "LATIN CAPITAL LETTER O WITH TILDE"), (0xD6, "LATIN CAPITAL LETTER O WITH DIAERESIS"),
  (0xD7, "MULTIPLICATION SIGN"), (0xD8, "LATIN CAPITAL LETTER O WITH STROKE"),
  (0xD9, "LATIN CAPITAL LETTER U WITH GRAVE"), (0xDA, "LATIN CAPITAL LETTER U WITH ACUTE")]

def characterNamesPart2 : List (Nat × String) := [
  (0xDB, "LATIN CAPITAL LETTER U WITH CIRCUMFLEX"), (0xDC, "LATIN CAPITAL LETTER U WITH DIAERESIS"),
  (0xDD, "LATIN CAPITAL LETTER Y WITH ACUTE"), (0xDE, "LATIN CAPITAL LETTER THORN"),
  (0xDF, "LATIN SMALL LETTER SHARP S"), (0xE0, "LATIN SMALL LETTER A WITH GRAVE"),
  (0xE1, "LATIN SMALL LETTER A WITH ACUTE"), (0xE2, "LATIN SMALL LETTER A WITH CIRCUMFLEX"),
  (0xE3, "LATIN SMALL LETTER A WITH TILDE"), (0xE4, "LATIN SMALL LETTER A WITH DIAERESIS"),
  (0xE5, "LATIN SMALL LETTER A WITH RING ABOVE"), (0xE6, "LATIN SMALL LETTER AE"),
  (0xE7, "LATIN SMALL LETTER C WITH CEDILLA"), (0xE8, "LATIN SMALL LETTER E WITH GRAVE"),
  (0xE9, "LATIN SMALL LETTER E WITH ACUTE"), (0xEA, "LATIN SMALL LETTER E WITH CIRCUMFLEX"),
  (0xEB, "LATIN SMALL LETTER E WITH DIAERESIS"), (0xEC, "LATIN SMALL LETTER I WITH GRAVE"),
  (0xED, "LATIN SMALL LETTER I WITH ACUTE"), (0xEE, "LATIN SMALL LETTER I WITH CIRCUMFLEX"),
  (0xEF, "LATIN SMALL LETTER I WITH DIAERESIS"), (0xF0, "LATIN SMALL LETTER ETH"),
  (0xF1, "LATIN SMALL LETTER N WITH TILDE"), (0xF2, "LATIN SMALL LETTER O WITH GRAVE"),
  (0xF3, "LATIN SMALL LETTER O WITH ACUTE"), (0xF4, "LATIN SMALL LETTER O WITH CIRCUMFLEX"),
  (0xF5, "LATIN SMALL LETTER O WITH TILDE"), (0xF6, "LATIN SMALL LETTER O WITH DIAERESIS"),
  (0xF7, "DIVISION SIGN"), (0xF8, "LATIN SMALL LETTER O WITH STROKE"),
  (0xF9, "LATIN SMALL LETTER U WITH GRAVE"), (0xFA, "LATIN SMALL LETTER U WITH ACUTE"),
  (0xFB, "LATIN SMALL LETTER U WITH CIRCUMFLEX"), (0xFC, "LATIN SMALL LETTER U WITH DIAERESIS"),
  (0xFD, "LATIN SMALL LETTER Y WITH ACUTE"), (0xFE, "LATIN SMALL LETTER THORN"),
  (0xFF, "LATIN SMALL LETTER Y WITH DIAERESIS"), (0x391, "GREEK CAPITAL LETTER ALPHA"),
  (0x392, "GREEK CAPITAL LETTER BETA"), (0x393, "GREEK CAPITAL LETTER GAMMA"),
  (0x394, "GREEK CAPITAL LETTER DELTA"), (0x395, "GREEK CAPITAL LETTER EPSILON"),
  (0x396, "GREEK CAPITAL LETTER ZETA"), (0x397, "GREEK CAPITAL LETTER ETA"),
  (0x398, "GREEK CAPITAL LETTER THETA"), (0x399, "GREEK CAPITAL LETTER IOTA"),
  (0x39A, "GREEK CAPITAL LETTER KAPPA"), (0x39B, "GREEK CAPITAL LETTER LAMDA"),
  (0x39C, "GREEK CAPITAL LETTER MU"), (0x39D, "GREEK CAPITAL LETTER NU"),
  (0x39E, "GREEK CAPITAL LETTER XI"), (0x39F, "GREEK CAPITAL LETTER OMICRON"),
  (0x3A0, "GREEK CAPITAL LETTER PI"), (0x3A1, "GREEK CAPITAL LETTER RHO"),
  (0x3A3, "GREEK CAPITAL LETTER SIGMA"), (0x3A4, "GREEK CAPITAL LETTER TAU"),
  (0x3A5, "GREEK CAPITAL LETTER UPSILON"), (0x3A6, "GREEK CAPITAL LETTER PHI"),
  (0x3A7, "GREEK CAPITAL LETTER CHI"), (0x3A8, "GREEK CAPITAL LETTER PSI"),
  (0x3A9, "GREEK CAPITAL LETTER OMEGA"), (0x3B1, "GREEK SMALL LETTER ALPHA"),
  (0x3B2, "GREEK SMALL LETTER BETA"), (0x3B3, "GREEK SMALL LETTER GAMMA"),
  (0x3B4, "GREEK SMALL LETTER DELTA"), (0x3B5, "GREEK SMALL LETTER EPSILON"),
  (0x3B6, "GREEK SMALL LETTER ZETA"), (0x3B7, "GREEK SMALL LETTER ETA"),
  (0x3B8, "GREEK SMALL LETTER THETA"), (0x3B9, "GREEK SMALL LETTER IOTA"),
  (0x3BA, "GREEK SMALL LETTER KAPPA"), (0x3BB, "GREEK SMALL LETTER LAMDA"),
  (0x3BC, "GREEK SMALL LETTER MU"), (0x3BD, "GREEK SMALL LETTER NU"),
  (0x3BE, "GREEK SMALL LETTER XI"), (0x3BF, "GREEK SMALL LETTER OMICRON"),
  (0x3C0, "GREEK SMALL LETTER PI"), (0x3C1, "GREEK SMALL LETTER RHO"),
  (0x3C2, "GREEK SMALL LETTER FINAL SIGMA"), (0x3C3, "GREEK SMALL LETTER SIGMA"),
  (0x3C4, "GREEK SMALL LETTER TAU"), (0x3C5, "GREEK SMALL LETTER UPSILON"),
  (0x3C6, "GREEK SMALL LETTER PHI"), (0x3C7, "GREEK SMALL LETTER CHI"),
  (0x3C8, "GREEK SMALL LETTER PSI"), (0x3C9, "GREEK SMALL LETTER OMEGA"),
  (0x410, "CYRILLIC CAPITAL LETTER A"), (0x411, "CYRILLIC CAPITAL LETTER BE"),
  (0x412, "CYRILLIC CAPITAL LETTER VE"), (0x413, "CYRILLIC CAPITAL LETTER GHE"),
  (0x414, "CYRILLIC CAPITAL LETTER DE"), (0x415, "CYRILLIC CAPITAL LETTER IE"),
  (0x416, "CYRILLIC CAPITAL LETTER ZHE"), (0x417, "CYRILLIC CAPITAL LETTER ZE"),
  (0x418, "CYRILLIC CAPITAL LETTER I"), (0x419, "CYRILLIC CAPITAL LETTER SHORT I"),
  (0x41A, "CYRILLIC CAPITAL LETTER KA"), (0x41B, "CYRILLIC CAPITAL LETTER EL"),
  (0x41C, "CYRILLIC CAPITAL LETTER EM"), (0x41D, "CYRILLIC CAPITAL LETTER EN"),
  (0x41E, "CYRILLIC CAPITAL LETTER O"), (0x41F, "CYRILLIC CAPITAL LETTER PE"),
  (0x420, "CYRILLIC CAPITAL LETTER ER"), (0x421, "CYRILLIC CAPITAL LETTER ES"),
  (0x422, "CYRILLIC CAPITAL LETTER TE"), (0x423, "CYRILLIC CAPITAL LETTER U"),
  (0x424, "CYRILLIC CAPITAL LETTER EF"), (0x425, "CYRILLIC CAPITAL LETTER HA"),
  (0x426, "CYRILLIC CAPITAL LETTER TSE"), (0x427, "CYRILLIC CAPITAL LETTER CHE"),
  (0x428, "CYRILLIC CAPITAL LETTER SHA"), (0x429, "CYRILLIC CAPITAL LETTER SHCHA"),
  (0x42A, "CYRILLIC CAPITAL LETTER HARD SIGN"), (0x42B, "CYRILLIC CAPITAL LETTER YERU"),
  (0x42C, "CYRILLIC CAPITAL LETTER SOFT SIGN"), (0x42D, "CYRILLIC CAPITAL LETTER E"),
  (0x42E, "CYRILLIC CAPITAL LETTER YU"), (0x42F, "CYRILLIC CAPITAL LETTER YA"),
  (0x430, "CYRILLIC SMALL LETTER A"), (0x431, "CYRILLIC SMALL LETTER BE")]

def characterNamesPart3 : List (Nat × String) := [
  (0x432, "CYRILLIC SMALL LETTER VE"), (0x433, "CYRILLIC SMALL LETTER GHE"),
  (0x434, "CYRILLIC SMALL LETTER DE"), (0x435, "CYRILLIC SMALL LETTER IE"),
  (0x436, "CYRILLIC SMALL LETTER ZHE"), (0x437, "CYRILLIC SMALL LETTER ZE"),
  (0x438, "CYRILLIC SMALL LETTER I"), (0x439, "CYRILLIC SMALL LETTER SHORT I"),
  (0x43A, "CYRILLIC SMALL LETTER KA"), (0x43B, "CYRILLIC SMALL LETTER EL"),
  (0x43C, "CYRILLIC SMALL LETTER EM"), (0x43D, "CYRILLIC SMALL LETTER EN"),
  (0x43E, "CYRILLIC SMALL LETTER O"), (0x43F, "CYRILLIC SMALL LETTER PE"),
  (0x440, "CYRILLIC SMALL LETTER ER"), (0x441, "CYRILLIC SMALL LETTER ES"),
  (0x442, "CYRILLIC SMALL LETTER TE"), (0x443, "CYRILLIC SMALL LETTER U"),
  (0x444, "CYRILLIC SMALL LETTER EF"), (0x445, "CYRILLIC SMALL LETTER HA"),
  (0x446, "CYRILLIC SMALL LETTER TSE"), (0x447, "CYRILLIC SMALL LETTER CHE"),
  (0x448, "CYRILLIC SMALL LETTER SHA"), (0x449, "CYRILLIC SMALL LETTER SHCHA"),
  (0x44A, "CYRILLIC SMALL LETTER HARD SIGN"), (0x44B, "CYRILLIC SMALL LETTER YERU"),
  (0x44C, "CYRILLIC SMALL LETTER SOFT SIGN"), (0x44D, "CYRILLIC SMALL LETTER E"),
  (0x44E, "CYRILLIC SMALL LETTER YU"), (0x44F, "CYRILLIC SMALL LETTER YA"),
  (0x200B, "ZERO WIDTH SPACE"), (0x200B, "ZWSP"), (0x200C, "ZERO WIDTH NON-JOINER"),
  (0x200C, "ZWNJ"), (0x200D, "ZERO WIDTH JOINER"), (0x200D, "ZWJ"), (0x200E, "LEFT-TO-RIGHT MARK"),
  (0x200F, "RIGHT-TO-LEFT MARK"), (0x2010, "HYPHEN"), (0x2011, "NON-BREAKING HYPHEN"),
  (0x2012, "FIGURE DASH"), (0x2013, "EN DASH"), (0x2014, "EM DASH"), (0x2015, "HORIZONTAL BAR"),
  (0x2016, "DOUBLE VERTICAL LINE"), (0x2017, "DOUBLE LOW LINE"),
  (0x2018, "LEFT SINGLE QUOTATION MARK"), (0x2019, "RIGHT SINGLE QUOTATION MARK"),
  (0x201A, "SINGLE LOW-9 QUOTATION MARK"), (0x201B, "SINGLE HIGH-REVERSED-9 QUOTATION MARK"),
  (0x201C, "LEFT DOUBLE QUOTATION MARK"), (0x201D, "RIGHT DOUBLE QUOTATION MARK"),
  (0x201E, "DOUBLE LOW-9 QUOTATION MARK"), (0x201F, "DOUBLE HIGH-REVERSED-9 QUOTATION MARK"),
  (0x2020, "DAGGER"), (0x2021, "DOUBLE DAGGER"), (0x2022, "BULLET"), (0x2023, "TRIANGULAR BULLET"),
  (0x2024, "ONE DOT LEADER"), (0x2025, "TWO DOT LEADER"), (0x2026, "HORIZONTAL ELLIPSIS"),
  (0x2027, "HYPHENATION POINT"), (0x202F, "NARROW NO-BREAK SPACE"), (0x2030, "PER MILLE SIGN"),
  (0x2031, "PER TEN THOUSAND SIGN"), (0x2032, "PRIME"), (0x2033, "DOUBLE PRIME"),
  (0x2034, "TRIPLE PRIME"), (0x2035, "REVERSED PRIME"), (0x2036, "REVERSED DOUBLE PRIME"),
  (0x2037, "REVERSED TRIPLE PRIME"), (0x2038, "CARET"),
  (0x2039, "SINGLE LEFT-POINTING ANGLE QUOTATION MARK"),
  (0x203A, "SINGLE RIGHT-POINTING ANGLE QUOTATION MARK"), (0x203B, "REFERENCE MARK"),
  (0x203C, "DOUBLE EXCLAMATION MARK"), (0x203D, "INTERROBANG"), (0x203E, "OVERLINE"),
  (0x203F, "UNDERTIE"), (0x2040, "CHARACTER TIE"), (0x2041, "CARET INSERTION POINT"),
  (0x2042, "ASTERISM"), (0x2043, "HYPHEN BULLET"), (0x2044, "FRACTION SLASH"),
  (0x2045, "LEFT SQUARE BRACKET WITH QUILL"), (0x2046, "RIGHT SQUARE BRACKET WITH QUILL"),
  (0x2047, "DOUBLE QUESTION MARK"), (0x2048, "QUESTION EXCLAMATION MARK"),
  (0x2049, "EXCLAMATION QUESTION MARK"), (0x204A, "TIRONIAN SIGN ET"),
  (0x204B, "REVERSED PILCROW SIGN"), (0x204C, "BLACK LEFTWARDS BULLET"),
  (0x204D, "BLACK RIGHTWARDS BULLET"), (0x204E, "LOW ASTERISK"), (0x204F, "REVERSED SEMICOLON"),
  (0x2050, "CLOSE UP"), (0x2051, "TWO ASTERISKS ALIGNED VERTICALLY"),
  (0x2052, "COMMERCIAL MINUS SIGN"), (0x2053, "SWUNG DASH"), (0x2054, "INVERTED UNDERTIE"),
  (0x2055, "FLOWER PUNCTUATION MARK"), (0x2056, "THREE DOT PUNCTUATION"),
  (0x2057, "QUADRUPLE PRIME"), (0x2058, "FOUR DOT PUNCTUATION"), (0x2059, "FIVE DOT PUNCTUATION"),
  (0x205A, "TWO DOT PUNCTUATION"), (0x205B, "FOUR DOT MARK"), (0x205C, "DOTTED CROSS"),
  (0x205D, "TRICOLON"), (0x205E, "VERTICAL FOUR DOTS"), (0x20A0, "EURO-CURRENCY SIGN"),
  (0x20A1, "COLON SIGN"), (0x20A2, "CRUZEIRO SIGN"), (0x20A3, "FRENCH FRANC SIGN"),
  (0x20A4, "LIRA SIGN"), (0x20A5, "MILL SIGN"), (0x20A6, "NAIRA SIGN"), (0x20A7, "PESETA SIGN"),
  (0x20A8, "RUPEE SIGN"), (0x20A9, "WON SIGN")]

def characterNamesPart4 : List (Nat × String) := [
  (0x20AA, "NEW SHEQEL SIGN"), (0x20AB, "DONG SIGN"), (0x20AC, "EURO SIGN"), (0x20AD, "KIP SIGN"),
  (0x20AE, "TUGRIK SIGN"), (0x20AF, "DRACHMA SIGN"), (0x20B0, "GERMAN PENNY SIGN"),
  (0x20B1, "PESO SIGN"), (0x20B2, "GUARANI SIGN"), (0x20B3, "AUSTRAL SIGN"),
  (0x20B4, "HRYVNIA SIGN"), (0x20B5, "CEDI SIGN"), (0x20B6, "LIVRE TOURNOIS SIGN"),
  (0x20B7, "SPESMILO SIGN"), (0x20B8, "TENGE SIGN"), (0x20B9, "INDIAN RUPEE SIGN"),
  (0x20BA, "TURKISH LIRA SIGN"), (0x20BB, "NORDIC MARK SIGN"), (0x20BC, "MANAT SIGN"),
  (0x20BD, "RUBLE SIGN"), (0x20BE, "LARI SIGN"), (0x20BF, "BITCOIN SIGN"), (0x20C0, "SOM SIGN"),
  (0x2100, "ACCOUNT OF"), (0x2101, "ADDRESSED TO THE SUBJECT"), (0x2102, "DOUBLE-STRUCK CAPITAL C"),
  (0x2113, "SCRIPT SMALL L"), (0x2116, "NUMERO SIGN"), (0x2120, "SERVICE MARK"),
  (0x2121, "TELEPHONE SIGN"), (0x2122, "TRADE MARK SIGN"), (0x2190, "LEFTWARDS ARROW"),
  (0x2191, "UPWARDS ARROW"), (0x2192, "RIGHTWARDS ARROW"), (0x2193, "DOWNWARDS ARROW"),
  (0x2194, "LEFT RIGHT ARROW"), (0x2195, "UP DOWN ARROW"), (0x2196, "NORTH WEST ARROW"),
  (0x2197, "NORTH EAST ARROW"), (0x2198, "SOUTH EAST ARROW"), (0x2199, "SOUTH WEST ARROW"),
  (0x2200, "FOR ALL"), (0x2201, "COMPLEMENT"), (0x2202, "PARTIAL DIFFERENTIAL"),
  (0x2203, "THERE EXISTS"), (0x2204, "THERE DOES NOT EXIST"), (0x2205, "EMPTY SET"),
  (0x2206, "INCREMENT"), (0x2207, "NABLA"), (0x2211, "N-ARY SUMMATION"), (0x2212, "MINUS SIGN"),
  (0x221A, "SQUARE ROOT"), (0x221E, "INFINITY"), (0x2248, "ALMOST EQUAL TO"),
  (0x2260, "NOT EQUAL TO"), (0x2261, "IDENTICAL TO"), (0x2262, "NOT IDENTICAL TO"),
  (0x2263, "STRICTLY EQUIVALENT TO"), (0x2264, "LESS-THAN OR EQUAL TO"),
  (0x2265, "GREATER-THAN OR EQUAL TO"), (0x25A0, "BLACK SQUARE"), (0x25A1, "WHITE SQUARE"),
  (0x25B2, "BLACK UP-POINTING TRIANGLE"), (0x25BC, "BLACK DOWN-POINTING TRIANGLE"),
  (0x25CB, "WHITE CIRCLE"), (0x25CC, "DOTTED CIRCLE"), (0x25CD, "CIRCLE WITH VERTICAL FILL"),
  (0x25CE, "BULLSEYE"), (0x25CF, "BLACK CIRCLE"), (0x2600, "BLACK SUN WITH RAYS"),
  (0x2601, "CLOUD"), (0x2602, "UMBRELLA"), (0x2603, "SNOWMAN"), (0x2604, "COMET"),
  (0x2605, "BLACK STAR"), (0x2606, "WHITE STAR"), (0x260E, "BLACK TELEPHONE"),
  (0x2660, "BLACK SPADE SUIT"), (0x2661, "WHITE HEART SUIT"), (0x2662, "WHITE DIAMOND SUIT"),
  (0x2663, "BLACK CLUB SUIT"), (0x2664, "WHITE SPADE SUIT"), (0x2665, "BLACK HEART SUIT"),
  (0x2666, "BLACK DIAMOND SUIT"), (0x2667, "WHITE CLUB SUIT"), (0x2713, "CHECK MARK"),
  (0x2714, "HEAVY CHECK MARK"), (0x2715, "MULTIPLICATION X"), (0x2716, "HEAVY MULTIPLICATION X"),
  (0x2717, "BALLOT X"), (0x2718, "HEAVY BALLOT X"), (0x2764, "HEAVY BLACK HEART"),
  (0x3000, "IDEOGRAPHIC SPACE"), (0x3001, "IDEOGRAPHIC COMMA"), (0x3002, "IDEOGRAPHIC FULL STOP"),
  (0xFEFF, "BOM"), (0xFEFF, "ZERO WIDTH NO-BREAK SPACE"), (0xFFFD, "REPLACEMENT CHARACTER"),
  (0x1F514, "BELL"), (0x1F600, "GRINNING FACE"), (0x1F601, "GRINNING FACE WITH SMILING EYES"),
  (0x1F602, "FACE WITH TEARS OF JOY"), (0x1F603, "SMILING FACE WITH OPEN MOUTH"),
  (0x1F604, "SMILING FACE WITH OPEN MOUTH AND SMILING EYES"),
  (0x1F605, "SMILING FACE WITH OPEN MOUTH AND COLD SWEAT"),
  (0x1F606, "SMILING FACE WITH OPEN MOUTH AND TIGHTLY-CLOSED EYES"),
  (0x1F607, "SMILING FACE WITH HALO"), (0x1F608, "SMILING FACE WITH HORNS"),
  (0x1F609, "WINKING FACE"), (0x1F60A, "SMILING FACE WITH SMILING EYES"),
  (0x1F60B, "FACE SAVOURING DELICIOUS FOOD"), (0x1F60C, "RELIEVED FACE"),
  (0x1F60D, "SMILING FACE WITH HEART-SHAPED EYES"), (0x1F60E, "SMILING FACE WITH SUNGLASSES"),
  (0x1F60F, "SMIRKING FACE"), (0x1F610, "NEUTRAL FACE")]

def characterNames : List (Nat × String) :=
  characterNamesPart1 ++ characterNamesPart2 ++ characterNamesPart3 ++ characterNamesPart4

/-- The letter of the basic alphabet with a name, which tells its case. -/
def basicLetter? (name : String) : Option Nat :=
  let small := "LATIN SMALL LETTER "
  let capital := "LATIN CAPITAL LETTER "
  let letter (start : String) (base : Nat) : Option Nat :=
    match name.toList.drop start.length with
    | [c] => if start.toList.isPrefixOf name.toList && c.isUpper then some (c.toNat + base) else none
    | _ => none
  (letter small 0x20).or (letter capital 0)

/-- The code point with a name. -/
def named? (name : String) : Option Nat :=
  let name := String.ofList (name.toList.map Char.toUpper)
  ((characterNames.find? (·.2 == name)).map (·.1)).or (basicLetter? name)

end Qualify.Text
