/-! # Names of characters: alphabets

The names of the characters from `0x0` to `0x17FF`: the alphabets of Europe, the Near East, India
and their neighbours. The rows are those of `Text.CharacterName`.
-/

namespace Conform.Text.CharacterName

/-- The rows of the table. -/
def alphabets : List String := [
  "0020 :SPACE|EXCLAMATION MARK",
  "0022 :QUOTATION MARK|NUMBER SIGN|DOLLAR SIGN|PERCENT SIGN|AMPERSAND|APOSTROPHE|LEFT PARENTHESIS",
  "0029 :RIGHT PARENTHESIS|ASTERISK|PLUS SIGN|COMMA|HYPHEN-MINUS|FULL STOP|SOLIDUS",
  "0030 DIGIT:ZERO|ONE|TWO|THREE|FOUR|FIVE|SIX|SEVEN|EIGHT|NINE",
  "003A :COLON|SEMICOLON|LESS-THAN SIGN|EQUALS SIGN|GREATER-THAN SIGN|QUESTION MARK|COMMERCIAL AT",
  "0041 LATIN CAPITAL LETTER:A|B|C|D|E|F|G|H|I|J|K|L|M|N|O|P|Q|R|S|T|U|V|W|X|Y|Z",
  "005B LEFT SQUARE:BRACKET",
  "005C :REVERSE SOLIDUS|RIGHT SQUARE BRACKET|CIRCUMFLEX ACCENT|LOW LINE|GRAVE ACCENT",
  "0061 LATIN SMALL LETTER:A|B|C|D|E|F|G|H|I|J|K|L|M|N|O|P|Q|R|S|T|U|V|W|X|Y|Z",
  "007B :LEFT CURLY BRACKET|VERTICAL LINE|RIGHT CURLY BRACKET|TILDE",
  "00A0 :NO-BREAK SPACE|INVERTED EXCLAMATION MARK|CENT SIGN|POUND SIGN|CURRENCY SIGN",
  "00A5 :YEN SIGN|BROKEN BAR|SECTION SIGN|DIAERESIS|COPYRIGHT SIGN|FEMININE ORDINAL INDICATOR",
  "00AB LEFT-POINTING DOUBLE ANGLE QUOTATION:MARK",
  "00AC :NOT SIGN|SOFT HYPHEN|REGISTERED SIGN|MACRON|DEGREE SIGN|PLUS-MINUS SIGN",
  "00B2 SUPERSCRIPT:TWO|THREE",
  "00B4 :ACUTE ACCENT|MICRO SIGN|PILCROW SIGN|MIDDLE DOT|CEDILLA",
  "00B9 :SUPERSCRIPT ONE|MASCULINE ORDINAL INDICATOR|RIGHT-POINTING DOUBLE ANGLE QUOTATION MARK",
  "00BC VULGAR FRACTION:ONE QUARTER|ONE HALF|THREE QUARTERS",
  "00BF INVERTED QUESTION:MARK",
  "00C0 LATIN CAPITAL LETTER A WITH:GRAVE|ACUTE|CIRCUMFLEX|TILDE|DIAERESIS|RING ABOVE",
  "00C6 LATIN CAPITAL LETTER:AE|C WITH CEDILLA",
  "00C8 LATIN CAPITAL LETTER E WITH:GRAVE|ACUTE|CIRCUMFLEX|DIAERESIS",
  "00CC LATIN CAPITAL LETTER I WITH:GRAVE|ACUTE|CIRCUMFLEX|DIAERESIS",
  "00D0 LATIN CAPITAL LETTER:ETH|N WITH TILDE",
  "00D2 LATIN CAPITAL LETTER O WITH:GRAVE|ACUTE|CIRCUMFLEX|TILDE|DIAERESIS",
  "00D7 MULTIPLICATION:SIGN",
  "00D8 LATIN CAPITAL LETTER:O WITH STROKE|U WITH GRAVE",
  "00DA LATIN CAPITAL LETTER:U WITH ACUTE|U WITH CIRCUMFLEX|U WITH DIAERESIS|Y WITH ACUTE|THORN",
  "00DF LATIN SMALL LETTER SHARP:S",
  "00E0 LATIN SMALL LETTER A WITH:GRAVE|ACUTE|CIRCUMFLEX|TILDE|DIAERESIS|RING ABOVE",
  "00E6 LATIN SMALL LETTER:AE|C WITH CEDILLA",
  "00E8 LATIN SMALL LETTER E WITH:GRAVE|ACUTE|CIRCUMFLEX|DIAERESIS",
  "00EC LATIN SMALL LETTER I WITH:GRAVE|ACUTE|CIRCUMFLEX|DIAERESIS",
  "00F0 LATIN SMALL LETTER:ETH|N WITH TILDE",
  "00F2 LATIN SMALL LETTER O WITH:GRAVE|ACUTE|CIRCUMFLEX|TILDE|DIAERESIS",
  "00F7 :DIVISION SIGN|LATIN SMALL LETTER O WITH STROKE",
  "00F9 LATIN SMALL LETTER U WITH:GRAVE|ACUTE|CIRCUMFLEX|DIAERESIS",
  "00FD LATIN SMALL LETTER:Y WITH ACUTE|THORN|Y WITH DIAERESIS",
  "0100 LATIN CAPITAL LETTER A WITH:MACRON",
  "0101 LATIN:SMALL LETTER A WITH MACRON|CAPITAL LETTER A WITH BREVE|SMALL LETTER A WITH BREVE",
  "0104 LATIN:CAPITAL LETTER A WITH OGONEK|SMALL LETTER A WITH OGONEK|CAPITAL LETTER C WITH ACUTE",
  "0107 LATIN:SMALL LETTER C WITH ACUTE|CAPITAL LETTER C WITH CIRCUMFLEX",
  "0109 LATIN:SMALL LETTER C WITH CIRCUMFLEX|CAPITAL LETTER C WITH DOT ABOVE",
  "010B LATIN:SMALL LETTER C WITH DOT ABOVE|CAPITAL LETTER C WITH CARON",
  "010D LATIN:SMALL LETTER C WITH CARON|CAPITAL LETTER D WITH CARON|SMALL LETTER D WITH CARON",
  "0110 LATIN:CAPITAL LETTER D WITH STROKE|SMALL LETTER D WITH STROKE|CAPITAL LETTER E WITH MACRON",
  "0113 LATIN:SMALL LETTER E WITH MACRON|CAPITAL LETTER E WITH BREVE|SMALL LETTER E WITH BREVE",
  "0116 LATIN:CAPITAL LETTER E WITH DOT ABOVE|SMALL LETTER E WITH DOT ABOVE",
  "0118 LATIN:CAPITAL LETTER E WITH OGONEK|SMALL LETTER E WITH OGONEK|CAPITAL LETTER E WITH CARON",
  "011B LATIN:SMALL LETTER E WITH CARON|CAPITAL LETTER G WITH CIRCUMFLEX",
  "011D LATIN:SMALL LETTER G WITH CIRCUMFLEX|CAPITAL LETTER G WITH BREVE|SMALL LETTER G WITH BREVE",
  "0120 LATIN:CAPITAL LETTER G WITH DOT ABOVE|SMALL LETTER G WITH DOT ABOVE",
  "0122 LATIN:CAPITAL LETTER G WITH CEDILLA|SMALL LETTER G WITH CEDILLA",
  "0124 LATIN:CAPITAL LETTER H WITH CIRCUMFLEX|SMALL LETTER H WITH CIRCUMFLEX",
  "0126 LATIN:CAPITAL LETTER H WITH STROKE|SMALL LETTER H WITH STROKE|CAPITAL LETTER I WITH TILDE",
  "0129 LATIN:SMALL LETTER I WITH TILDE|CAPITAL LETTER I WITH MACRON|SMALL LETTER I WITH MACRON",
  "012C LATIN:CAPITAL LETTER I WITH BREVE|SMALL LETTER I WITH BREVE|CAPITAL LETTER I WITH OGONEK",
  "012F LATIN:SMALL LETTER I WITH OGONEK|CAPITAL LETTER I WITH DOT ABOVE|SMALL LETTER DOTLESS I",
  "0132 LATIN:CAPITAL LIGATURE IJ|SMALL LIGATURE IJ|CAPITAL LETTER J WITH CIRCUMFLEX",
  "0135 LATIN:SMALL LETTER J WITH CIRCUMFLEX|CAPITAL LETTER K WITH CEDILLA",
  "0137 LATIN SMALL LETTER:K WITH CEDILLA|KRA",
  "0139 LATIN:CAPITAL LETTER L WITH ACUTE|SMALL LETTER L WITH ACUTE|CAPITAL LETTER L WITH CEDILLA",
  "013C LATIN:SMALL LETTER L WITH CEDILLA|CAPITAL LETTER L WITH CARON|SMALL LETTER L WITH CARON",
  "013F LATIN:CAPITAL LETTER L WITH MIDDLE DOT|SMALL LETTER L WITH MIDDLE DOT",
  "0141 LATIN:CAPITAL LETTER L WITH STROKE|SMALL LETTER L WITH STROKE",
  "0143 LATIN:CAPITAL LETTER N WITH ACUTE|SMALL LETTER N WITH ACUTE|CAPITAL LETTER N WITH CEDILLA",
  "0146 LATIN:SMALL LETTER N WITH CEDILLA|CAPITAL LETTER N WITH CARON",
  "0148 LATIN SMALL LETTER N:WITH CARON|PRECEDED BY APOSTROPHE",
  "014A LATIN:CAPITAL LETTER ENG|SMALL LETTER ENG",
  "014C LATIN:CAPITAL LETTER O WITH MACRON|SMALL LETTER O WITH MACRON|CAPITAL LETTER O WITH BREVE",
  "014F LATIN:SMALL LETTER O WITH BREVE|CAPITAL LETTER O WITH DOUBLE ACUTE",
  "0151 LATIN:SMALL LETTER O WITH DOUBLE ACUTE|CAPITAL LIGATURE OE|SMALL LIGATURE OE",
  "0154 LATIN:CAPITAL LETTER R WITH ACUTE|SMALL LETTER R WITH ACUTE|CAPITAL LETTER R WITH CEDILLA",
  "0157 LATIN:SMALL LETTER R WITH CEDILLA|CAPITAL LETTER R WITH CARON",
  "0159 LATIN:SMALL LETTER R WITH CARON|CAPITAL LETTER S WITH ACUTE|SMALL LETTER S WITH ACUTE",
  "015C LATIN:CAPITAL LETTER S WITH CIRCUMFLEX|SMALL LETTER S WITH CIRCUMFLEX",
  "015E LATIN:CAPITAL LETTER S WITH CEDILLA|SMALL LETTER S WITH CEDILLA",
  "0160 LATIN:CAPITAL LETTER S WITH CARON|SMALL LETTER S WITH CARON|CAPITAL LETTER T WITH CEDILLA",
  "0163 LATIN:SMALL LETTER T WITH CEDILLA|CAPITAL LETTER T WITH CARON",
  "0165 LATIN:SMALL LETTER T WITH CARON|CAPITAL LETTER T WITH STROKE|SMALL LETTER T WITH STROKE",
  "0168 LATIN:CAPITAL LETTER U WITH TILDE|SMALL LETTER U WITH TILDE|CAPITAL LETTER U WITH MACRON",
  "016B LATIN:SMALL LETTER U WITH MACRON|CAPITAL LETTER U WITH BREVE|SMALL LETTER U WITH BREVE",
  "016E LATIN:CAPITAL LETTER U WITH RING ABOVE|SMALL LETTER U WITH RING ABOVE",
  "0170 LATIN:CAPITAL LETTER U WITH DOUBLE ACUTE|SMALL LETTER U WITH DOUBLE ACUTE",
  "0172 LATIN:CAPITAL LETTER U WITH OGONEK|SMALL LETTER U WITH OGONEK",
  "0174 LATIN:CAPITAL LETTER W WITH CIRCUMFLEX|SMALL LETTER W WITH CIRCUMFLEX",
  "0176 LATIN:CAPITAL LETTER Y WITH CIRCUMFLEX|SMALL LETTER Y WITH CIRCUMFLEX",
  "0178 LATIN CAPITAL LETTER:Y WITH DIAERESIS|Z WITH ACUTE",
  "017A LATIN:SMALL LETTER Z WITH ACUTE|CAPITAL LETTER Z WITH DOT ABOVE",
  "017C LATIN:SMALL LETTER Z WITH DOT ABOVE|CAPITAL LETTER Z WITH CARON",
  "017E LATIN SMALL LETTER:Z WITH CARON|LONG S|B WITH STROKE",
  "0181 LATIN CAPITAL LETTER B WITH:HOOK|TOPBAR",
  "0183 LATIN:SMALL LETTER B WITH TOPBAR|CAPITAL LETTER TONE SIX|SMALL LETTER TONE SIX",
  "0186 LATIN CAPITAL LETTER:OPEN O|C WITH HOOK",
  "0188 LATIN SMALL LETTER C WITH:HOOK",
  "0189 LATIN CAPITAL LETTER:AFRICAN D|D WITH HOOK|D WITH TOPBAR",
  "018C LATIN SMALL LETTER:D WITH TOPBAR|TURNED DELTA",
  "018E LATIN CAPITAL LETTER:REVERSED E|SCHWA|OPEN E|F WITH HOOK",
  "0192 LATIN SMALL LETTER F WITH:HOOK",
  "0193 LATIN CAPITAL LETTER:G WITH HOOK|GAMMA",
  "0195 LATIN SMALL LETTER:HV",
  "0196 LATIN CAPITAL LETTER:IOTA|I WITH STROKE|K WITH HOOK",
  "0199 LATIN SMALL LETTER:K WITH HOOK|L WITH BAR|LAMBDA WITH STROKE",
  "019C LATIN CAPITAL LETTER:TURNED M|N WITH LEFT HOOK",
  "019E LATIN SMALL LETTER N WITH LONG RIGHT:LEG",
  "019F LATIN CAPITAL LETTER O WITH:MIDDLE TILDE|HORN",
  "01A1 LATIN SMALL LETTER O WITH:HORN",
  "01A2 LATIN:CAPITAL LETTER OI|SMALL LETTER OI|CAPITAL LETTER P WITH HOOK",
  "01A5 LATIN:SMALL LETTER P WITH HOOK|LETTER YR|CAPITAL LETTER TONE TWO",
  "01A8 LATIN:SMALL LETTER TONE TWO|CAPITAL LETTER ESH|LETTER REVERSED ESH LOOP",
  "01AB LATIN:SMALL LETTER T WITH PALATAL HOOK|CAPITAL LETTER T WITH HOOK|SMALL LETTER T WITH HOOK",
  "01AE LATIN CAPITAL LETTER:T WITH RETROFLEX HOOK|U WITH HORN",
  "01B0 LATIN SMALL LETTER U WITH:HORN",
  "01B1 LATIN CAPITAL LETTER:UPSILON|V WITH HOOK|Y WITH HOOK",
  "01B4 LATIN:SMALL LETTER Y WITH HOOK|CAPITAL LETTER Z WITH STROKE|SMALL LETTER Z WITH STROKE",
  "01B7 LATIN CAPITAL LETTER:EZH|EZH REVERSED",
  "01B9 LATIN SMALL LETTER EZH:REVERSED|WITH TAIL",
  "01BB LATIN:LETTER TWO WITH STROKE|CAPITAL LETTER TONE FIVE",
  "01BD LATIN:SMALL LETTER TONE FIVE|LETTER INVERTED GLOTTAL STOP WITH STROKE",
  "01BF LATIN LETTER:WYNN|DENTAL CLICK|LATERAL CLICK|ALVEOLAR CLICK|RETROFLEX CLICK",
  "01C4 LATIN CAPITAL LETTER:DZ WITH CARON|D WITH SMALL LETTER Z WITH CARON",
  "01C6 LATIN SMALL LETTER DZ WITH:CARON",
  "01C7 LATIN CAPITAL LETTER:LJ|L WITH SMALL LETTER J",
  "01C9 LATIN SMALL LETTER:LJ",
  "01CA LATIN CAPITAL LETTER:NJ|N WITH SMALL LETTER J",
  "01CC LATIN:SMALL LETTER NJ|CAPITAL LETTER A WITH CARON",
  "01CE LATIN:SMALL LETTER A WITH CARON|CAPITAL LETTER I WITH CARON|SMALL LETTER I WITH CARON",
  "01D1 LATIN:CAPITAL LETTER O WITH CARON|SMALL LETTER O WITH CARON|CAPITAL LETTER U WITH CARON",
  "01D4 LATIN:SMALL LETTER U WITH CARON|CAPITAL LETTER U WITH DIAERESIS AND MACRON",
  "01D6 LATIN:SMALL LETTER U WITH DIAERESIS AND MACRON|CAPITAL LETTER U WITH DIAERESIS AND ACUTE",
  "01D8 LATIN:SMALL LETTER U WITH DIAERESIS AND ACUTE|CAPITAL LETTER U WITH DIAERESIS AND CARON",
  "01DA LATIN:SMALL LETTER U WITH DIAERESIS AND CARON|CAPITAL LETTER U WITH DIAERESIS AND GRAVE",
  "01DC LATIN SMALL LETTER:U WITH DIAERESIS AND GRAVE|TURNED E",
  "01DE LATIN CAPITAL LETTER A WITH DIAERESIS AND:MACRON",
  "01DF LATIN:SMALL LETTER A WITH DIAERESIS AND MACRON|CAPITAL LETTER A WITH DOT ABOVE AND MACRON",
  "01E1 LATIN:SMALL LETTER A WITH DOT ABOVE AND MACRON|CAPITAL LETTER AE WITH MACRON",
  "01E3 LATIN:SMALL LETTER AE WITH MACRON|CAPITAL LETTER G WITH STROKE",
  "01E5 LATIN:SMALL LETTER G WITH STROKE|CAPITAL LETTER G WITH CARON|SMALL LETTER G WITH CARON",
  "01E8 LATIN:CAPITAL LETTER K WITH CARON|SMALL LETTER K WITH CARON|CAPITAL LETTER O WITH OGONEK",
  "01EB LATIN:SMALL LETTER O WITH OGONEK|CAPITAL LETTER O WITH OGONEK AND MACRON",
  "01ED LATIN:SMALL LETTER O WITH OGONEK AND MACRON|CAPITAL LETTER EZH WITH CARON",
  "01EF LATIN SMALL LETTER:EZH WITH CARON|J WITH CARON",
  "01F1 LATIN CAPITAL LETTER:DZ|D WITH SMALL LETTER Z",
  "01F3 LATIN:SMALL LETTER DZ|CAPITAL LETTER G WITH ACUTE|SMALL LETTER G WITH ACUTE",
  "01F6 LATIN CAPITAL LETTER:HWAIR|WYNN|N WITH GRAVE",
  "01F9 LATIN:SMALL LETTER N WITH GRAVE|CAPITAL LETTER A WITH RING ABOVE AND ACUTE",
  "01FB LATIN:SMALL LETTER A WITH RING ABOVE AND ACUTE|CAPITAL LETTER AE WITH ACUTE",
  "01FD LATIN:SMALL LETTER AE WITH ACUTE|CAPITAL LETTER O WITH STROKE AND ACUTE",
  "01FF LATIN:SMALL LETTER O WITH STROKE AND ACUTE|CAPITAL LETTER A WITH DOUBLE GRAVE",
  "0201 LATIN:SMALL LETTER A WITH DOUBLE GRAVE|CAPITAL LETTER A WITH INVERTED BREVE",
  "0203 LATIN:SMALL LETTER A WITH INVERTED BREVE|CAPITAL LETTER E WITH DOUBLE GRAVE",
  "0205 LATIN:SMALL LETTER E WITH DOUBLE GRAVE|CAPITAL LETTER E WITH INVERTED BREVE",
  "0207 LATIN:SMALL LETTER E WITH INVERTED BREVE|CAPITAL LETTER I WITH DOUBLE GRAVE",
  "0209 LATIN:SMALL LETTER I WITH DOUBLE GRAVE|CAPITAL LETTER I WITH INVERTED BREVE",
  "020B LATIN:SMALL LETTER I WITH INVERTED BREVE|CAPITAL LETTER O WITH DOUBLE GRAVE",
  "020D LATIN:SMALL LETTER O WITH DOUBLE GRAVE|CAPITAL LETTER O WITH INVERTED BREVE",
  "020F LATIN:SMALL LETTER O WITH INVERTED BREVE|CAPITAL LETTER R WITH DOUBLE GRAVE",
  "0211 LATIN:SMALL LETTER R WITH DOUBLE GRAVE|CAPITAL LETTER R WITH INVERTED BREVE",
  "0213 LATIN:SMALL LETTER R WITH INVERTED BREVE|CAPITAL LETTER U WITH DOUBLE GRAVE",
  "0215 LATIN:SMALL LETTER U WITH DOUBLE GRAVE|CAPITAL LETTER U WITH INVERTED BREVE",
  "0217 LATIN:SMALL LETTER U WITH INVERTED BREVE|CAPITAL LETTER S WITH COMMA BELOW",
  "0219 LATIN:SMALL LETTER S WITH COMMA BELOW|CAPITAL LETTER T WITH COMMA BELOW",
  "021B LATIN:SMALL LETTER T WITH COMMA BELOW|CAPITAL LETTER YOGH",
  "021D LATIN:SMALL LETTER YOGH|CAPITAL LETTER H WITH CARON|SMALL LETTER H WITH CARON",
  "0220 LATIN:CAPITAL LETTER N WITH LONG RIGHT LEG|SMALL LETTER D WITH CURL|CAPITAL LETTER OU",
  "0223 LATIN:SMALL LETTER OU|CAPITAL LETTER Z WITH HOOK|SMALL LETTER Z WITH HOOK",
  "0226 LATIN:CAPITAL LETTER A WITH DOT ABOVE|SMALL LETTER A WITH DOT ABOVE",
  "0228 LATIN:CAPITAL LETTER E WITH CEDILLA|SMALL LETTER E WITH CEDILLA",
  "022A LATIN:CAPITAL LETTER O WITH DIAERESIS AND MACRON|SMALL LETTER O WITH DIAERESIS AND MACRON",
  "022C LATIN:CAPITAL LETTER O WITH TILDE AND MACRON|SMALL LETTER O WITH TILDE AND MACRON",
  "022E LATIN:CAPITAL LETTER O WITH DOT ABOVE|SMALL LETTER O WITH DOT ABOVE",
  "0230 LATIN:CAPITAL LETTER O WITH DOT ABOVE AND MACRON|SMALL LETTER O WITH DOT ABOVE AND MACRON",
  "0232 LATIN:CAPITAL LETTER Y WITH MACRON|SMALL LETTER Y WITH MACRON",
  "0234 LATIN SMALL LETTER:L WITH CURL|N WITH CURL|T WITH CURL|DOTLESS J|DB DIGRAPH|QP DIGRAPH",
  "023A LATIN CAPITAL LETTER:A WITH STROKE|C WITH STROKE",
  "023C LATIN SMALL LETTER C WITH:STROKE",
  "023D LATIN CAPITAL LETTER:L WITH BAR|T WITH DIAGONAL STROKE",
  "023F LATIN SMALL LETTER:S WITH SWASH TAIL|Z WITH SWASH TAIL",
  "0241 LATIN:CAPITAL LETTER GLOTTAL STOP|SMALL LETTER GLOTTAL STOP",
  "0243 LATIN CAPITAL LETTER:B WITH STROKE|U BAR|TURNED V|E WITH STROKE",
  "0247 LATIN:SMALL LETTER E WITH STROKE|CAPITAL LETTER J WITH STROKE|SMALL LETTER J WITH STROKE",
  "024A LATIN:CAPITAL LETTER SMALL Q WITH HOOK TAIL|SMALL LETTER Q WITH HOOK TAIL",
  "024C LATIN:CAPITAL LETTER R WITH STROKE|SMALL LETTER R WITH STROKE|CAPITAL LETTER Y WITH STROKE",
  "024F LATIN SMALL LETTER:Y WITH STROKE|TURNED A|ALPHA|TURNED ALPHA",
  "0253 LATIN SMALL LETTER:B WITH HOOK|OPEN O|C WITH CURL|D WITH TAIL|D WITH HOOK|REVERSED E",
  "0259 LATIN SMALL LETTER:SCHWA|SCHWA WITH HOOK|OPEN E|REVERSED OPEN E|REVERSED OPEN E WITH HOOK",
  "025E LATIN SMALL LETTER:CLOSED REVERSED OPEN E|DOTLESS J WITH STROKE|G WITH HOOK|SCRIPT G",
  "0262 LATIN LETTER SMALL CAPITAL:G",
  "0263 LATIN SMALL LETTER:GAMMA|RAMS HORN|TURNED H|H WITH HOOK|HENG WITH HOOK|I WITH STROKE|IOTA",
  "026A LATIN LETTER SMALL CAPITAL:I",
  "026B LATIN SMALL LETTER L WITH:MIDDLE TILDE|BELT|RETROFLEX HOOK",
  "026E LATIN SMALL LETTER:LEZH|TURNED M|TURNED M WITH LONG LEG|M WITH HOOK",
  "0272 LATIN SMALL LETTER N WITH:LEFT HOOK|RETROFLEX HOOK",
  "0274 LATIN:LETTER SMALL CAPITAL N|SMALL LETTER BARRED O|LETTER SMALL CAPITAL OE",
  "0277 LATIN SMALL LETTER:CLOSED OMEGA|PHI|TURNED R|TURNED R WITH LONG LEG|TURNED R WITH HOOK",
  "027C LATIN SMALL LETTER:R WITH LONG LEG|R WITH TAIL|R WITH FISHHOOK|REVERSED R WITH FISHHOOK",
  "0280 LATIN LETTER SMALL CAPITAL:R|INVERTED R",
  "0282 LATIN SMALL LETTER:S WITH HOOK|ESH|DOTLESS J WITH STROKE AND HOOK|SQUAT REVERSED ESH",
  "0286 LATIN SMALL LETTER:ESH WITH CURL|TURNED T|T WITH RETROFLEX HOOK|U BAR|UPSILON|V WITH HOOK",
  "028C LATIN SMALL LETTER TURNED:V|W|Y",
  "028F LATIN LETTER SMALL CAPITAL:Y",
  "0290 LATIN SMALL LETTER:Z WITH RETROFLEX HOOK|Z WITH CURL|EZH|EZH WITH CURL",
  "0294 LATIN LETTER:GLOTTAL STOP|PHARYNGEAL VOICED FRICATIVE|INVERTED GLOTTAL STOP|STRETCHED C",
  "0298 LATIN:LETTER BILABIAL CLICK|LETTER SMALL CAPITAL B|SMALL LETTER CLOSED OPEN E",
  "029B LATIN LETTER SMALL CAPITAL:G WITH HOOK|H",
  "029D LATIN SMALL LETTER:J WITH CROSSED-TAIL|TURNED K",
  "029F LATIN:LETTER SMALL CAPITAL L|SMALL LETTER Q WITH HOOK",
  "02A1 LATIN LETTER:GLOTTAL STOP WITH STROKE|REVERSED GLOTTAL STOP WITH STROKE",
  "02A3 LATIN SMALL LETTER:DZ DIGRAPH|DEZH DIGRAPH|DZ DIGRAPH WITH CURL|TS DIGRAPH",
  "02A7 LATIN SMALL LETTER:TESH DIGRAPH|TC DIGRAPH WITH CURL|FENG DIGRAPH|LS DIGRAPH|LZ DIGRAPH",
  "02AC LATIN LETTER:BILABIAL PERCUSSIVE|BIDENTAL PERCUSSIVE",
  "02AE LATIN SMALL LETTER TURNED H WITH:FISHHOOK|FISHHOOK AND TAIL",
  "02B0 MODIFIER LETTER SMALL:H|H WITH HOOK|J|R|TURNED R|TURNED R WITH HOOK|CAPITAL INVERTED R|W|Y",
  "02B9 MODIFIER LETTER:PRIME|DOUBLE PRIME|TURNED COMMA|APOSTROPHE|REVERSED COMMA|RIGHT HALF RING",
  "02BF MODIFIER LETTER:LEFT HALF RING|GLOTTAL STOP|REVERSED GLOTTAL STOP|LEFT ARROWHEAD",
  "02C3 MODIFIER LETTER:RIGHT ARROWHEAD|UP ARROWHEAD|DOWN ARROWHEAD|CIRCUMFLEX ACCENT",
  "02C7 :CARON",
  "02C8 MODIFIER LETTER:VERTICAL LINE|MACRON|ACUTE ACCENT|GRAVE ACCENT",
  "02CC MODIFIER LETTER LOW:VERTICAL LINE|MACRON|GRAVE ACCENT|ACUTE ACCENT",
  "02D0 MODIFIER LETTER:TRIANGULAR COLON|HALF TRIANGULAR COLON|CENTRED RIGHT HALF RING",
  "02D3 MODIFIER LETTER:CENTRED LEFT HALF RING|UP TACK|DOWN TACK|PLUS SIGN|MINUS SIGN",
  "02D8 :BREVE|DOT ABOVE|RING ABOVE|OGONEK|SMALL TILDE|DOUBLE ACUTE ACCENT",
  "02DE MODIFIER LETTER:RHOTIC HOOK|CROSS ACCENT",
  "02E0 MODIFIER LETTER SMALL:GAMMA|L|S|X|REVERSED GLOTTAL STOP",
  "02E5 MODIFIER LETTER:EXTRA-HIGH TONE BAR|HIGH TONE BAR",
  "02E7 MODIFIER LETTER:MID TONE BAR|LOW TONE BAR|EXTRA-LOW TONE BAR|YIN DEPARTING TONE MARK",
  "02EB MODIFIER LETTER:YANG DEPARTING TONE MARK|VOICING|UNASPIRATED|DOUBLE APOSTROPHE",
  "02EF MODIFIER LETTER LOW:DOWN ARROWHEAD|UP ARROWHEAD|LEFT ARROWHEAD|RIGHT ARROWHEAD|RING",
  "02F4 MODIFIER LETTER MIDDLE:GRAVE ACCENT|DOUBLE GRAVE ACCENT|DOUBLE ACUTE ACCENT",
  "02F7 MODIFIER LETTER:LOW TILDE|RAISED COLON|BEGIN HIGH TONE",
  "02FA MODIFIER LETTER:END HIGH TONE|BEGIN LOW TONE|END LOW TONE|SHELF|OPEN SHELF|LOW LEFT ARROW",
  "0300 COMBINING:GRAVE ACCENT|ACUTE ACCENT|CIRCUMFLEX ACCENT|TILDE|MACRON",
  "0305 COMBINING:OVERLINE|BREVE|DOT ABOVE|DIAERESIS|HOOK ABOVE|RING ABOVE|DOUBLE ACUTE ACCENT",
  "030C COMBINING:CARON|VERTICAL LINE ABOVE|DOUBLE VERTICAL LINE ABOVE|DOUBLE GRAVE ACCENT",
  "0310 COMBINING:CANDRABINDU|INVERTED BREVE|TURNED COMMA ABOVE|COMMA ABOVE|REVERSED COMMA ABOVE",
  "0315 COMBINING:COMMA ABOVE RIGHT|GRAVE ACCENT BELOW|ACUTE ACCENT BELOW|LEFT TACK BELOW",
  "0319 COMBINING:RIGHT TACK BELOW|LEFT ANGLE ABOVE|HORN|LEFT HALF RING BELOW|UP TACK BELOW",
  "031E COMBINING:DOWN TACK BELOW|PLUS SIGN BELOW|MINUS SIGN BELOW|PALATALIZED HOOK BELOW",
  "0322 COMBINING:RETROFLEX HOOK BELOW|DOT BELOW|DIAERESIS BELOW|RING BELOW|COMMA BELOW",
  "0327 COMBINING:CEDILLA|OGONEK|VERTICAL LINE BELOW|BRIDGE BELOW|INVERTED DOUBLE ARCH BELOW",
  "032C COMBINING:CARON BELOW|CIRCUMFLEX ACCENT BELOW|BREVE BELOW|INVERTED BREVE BELOW|TILDE BELOW",
  "0331 COMBINING:MACRON BELOW|LOW LINE|DOUBLE LOW LINE|TILDE OVERLAY|SHORT STROKE OVERLAY",
  "0336 COMBINING:LONG STROKE OVERLAY|SHORT SOLIDUS OVERLAY|LONG SOLIDUS OVERLAY",
  "0339 COMBINING:RIGHT HALF RING BELOW|INVERTED BRIDGE BELOW|SQUARE BELOW|SEAGULL BELOW",
  "033D COMBINING:X ABOVE|VERTICAL TILDE|DOUBLE OVERLINE|GRAVE TONE MARK|ACUTE TONE MARK",
  "0342 COMBINING GREEK:PERISPOMENI|KORONIS|DIALYTIKA TONOS|YPOGEGRAMMENI",
  "0346 COMBINING:BRIDGE ABOVE|EQUALS SIGN BELOW",
  "0348 COMBINING:DOUBLE VERTICAL LINE BELOW|LEFT ANGLE BELOW|NOT TILDE ABOVE|HOMOTHETIC ABOVE",
  "034C COMBINING:ALMOST EQUAL TO ABOVE|LEFT RIGHT ARROW BELOW|UPWARDS ARROW BELOW|GRAPHEME JOINER",
  "0350 COMBINING:RIGHT ARROWHEAD ABOVE|LEFT HALF RING ABOVE|FERMATA|X BELOW|LEFT ARROWHEAD BELOW",
  "0355 COMBINING RIGHT:ARROWHEAD BELOW|ARROWHEAD AND UP ARROWHEAD BELOW|HALF RING ABOVE",
  "0358 COMBINING:DOT ABOVE RIGHT|ASTERISK BELOW|DOUBLE RING BELOW|ZIGZAG ABOVE|DOUBLE BREVE BELOW",
  "035D COMBINING DOUBLE:BREVE|MACRON|MACRON BELOW|TILDE|INVERTED BREVE|RIGHTWARDS ARROW BELOW",
  "0363 COMBINING LATIN SMALL LETTER:A|E|I|O|U|C|D|H|M|R|T|V|X",
  "0370 GREEK:CAPITAL LETTER HETA|SMALL LETTER HETA",
  "0372 GREEK:CAPITAL LETTER ARCHAIC SAMPI|SMALL LETTER ARCHAIC SAMPI|NUMERAL SIGN",
  "0375 GREEK:LOWER NUMERAL SIGN|CAPITAL LETTER PAMPHYLIAN DIGAMMA|SMALL LETTER PAMPHYLIAN DIGAMMA",
  "037A GREEK:YPOGEGRAMMENI|SMALL REVERSED LUNATE SIGMA SYMBOL|SMALL DOTTED LUNATE SIGMA SYMBOL",
  "037D GREEK:SMALL REVERSED DOTTED LUNATE SIGMA SYMBOL|QUESTION MARK|CAPITAL LETTER YOT",
  "0384 GREEK:TONOS|DIALYTIKA TONOS|CAPITAL LETTER ALPHA WITH TONOS|ANO TELEIA",
  "0388 GREEK CAPITAL LETTER:EPSILON WITH TONOS|ETA WITH TONOS|IOTA WITH TONOS",
  "038C GREEK CAPITAL LETTER OMICRON WITH:TONOS",
  "038E GREEK CAPITAL LETTER:UPSILON WITH TONOS|OMEGA WITH TONOS",
  "0390 GREEK SMALL LETTER IOTA WITH DIALYTIKA AND:TONOS",
  "0391 GREEK CAPITAL LETTER:ALPHA|BETA|GAMMA",
  "0394 GREEK CAPITAL LETTER:DELTA|EPSILON|ZETA|ETA|THETA|IOTA|KAPPA|LAMDA|MU|NU|XI|OMICRON|PI|RHO",
  "03A3 GREEK CAPITAL LETTER:SIGMA|TAU",
  "03A5 GREEK CAPITAL LETTER:UPSILON|PHI|CHI|PSI|OMEGA|IOTA WITH DIALYTIKA|UPSILON WITH DIALYTIKA",
  "03AC GREEK SMALL LETTER:ALPHA WITH TONOS|EPSILON WITH TONOS|ETA WITH TONOS",
  "03AF GREEK SMALL LETTER:IOTA WITH TONOS|UPSILON WITH DIALYTIKA AND TONOS|ALPHA|BETA",
  "03B3 GREEK SMALL LETTER:GAMMA|DELTA|EPSILON|ZETA|ETA|THETA|IOTA|KAPPA|LAMDA|MU|NU|XI|OMICRON|PI",
  "03C1 GREEK SMALL LETTER:RHO|FINAL SIGMA|SIGMA|TAU|UPSILON|PHI|CHI|PSI|OMEGA|IOTA WITH DIALYTIKA",
  "03CB GREEK SMALL LETTER:UPSILON WITH DIALYTIKA|OMICRON WITH TONOS|UPSILON WITH TONOS",
  "03CE GREEK:SMALL LETTER OMEGA WITH TONOS|CAPITAL KAI SYMBOL|BETA SYMBOL|THETA SYMBOL",
  "03D2 GREEK UPSILON WITH:HOOK SYMBOL|ACUTE AND HOOK SYMBOL|DIAERESIS AND HOOK SYMBOL",
  "03D5 GREEK:PHI SYMBOL|PI SYMBOL|KAI SYMBOL|LETTER ARCHAIC KOPPA",
  "03D9 GREEK:SMALL LETTER ARCHAIC KOPPA|LETTER STIGMA|SMALL LETTER STIGMA|LETTER DIGAMMA",
  "03DD GREEK:SMALL LETTER DIGAMMA|LETTER KOPPA|SMALL LETTER KOPPA|LETTER SAMPI|SMALL LETTER SAMPI",
  "03E2 COPTIC:CAPITAL LETTER SHEI|SMALL LETTER SHEI",
  "03E4 COPTIC:CAPITAL LETTER FEI|SMALL LETTER FEI|CAPITAL LETTER KHEI|SMALL LETTER KHEI",
  "03E8 COPTIC:CAPITAL LETTER HORI|SMALL LETTER HORI|CAPITAL LETTER GANGIA|SMALL LETTER GANGIA",
  "03EC COPTIC:CAPITAL LETTER SHIMA|SMALL LETTER SHIMA|CAPITAL LETTER DEI|SMALL LETTER DEI",
  "03F0 GREEK:KAPPA SYMBOL|RHO SYMBOL|LUNATE SIGMA SYMBOL",
  "03F3 GREEK:LETTER YOT|CAPITAL THETA SYMBOL|LUNATE EPSILON SYMBOL|REVERSED LUNATE EPSILON SYMBOL",
  "03F7 GREEK:CAPITAL LETTER SHO|SMALL LETTER SHO|CAPITAL LUNATE SIGMA SYMBOL|CAPITAL LETTER SAN",
  "03FB GREEK:SMALL LETTER SAN|RHO WITH STROKE SYMBOL|CAPITAL REVERSED LUNATE SIGMA SYMBOL",
  "03FE GREEK CAPITAL:DOTTED LUNATE SIGMA SYMBOL|REVERSED DOTTED LUNATE SIGMA SYMBOL",
  "0400 CYRILLIC CAPITAL LETTER:IE WITH GRAVE|IO|DJE|GJE|UKRAINIAN IE|DZE|BYELORUSSIAN-UKRAINIAN I",
  "0407 CYRILLIC CAPITAL LETTER:YI|JE|LJE|NJE|TSHE|KJE|I WITH GRAVE|SHORT U",
  "040F CYRILLIC CAPITAL LETTER:DZHE|A|BE|VE|GHE|DE|IE|ZHE|ZE|I|SHORT I|KA|EL|EM|EN|O|PE|ER",
  "0421 CYRILLIC CAPITAL LETTER:ES|TE|U|EF|HA|TSE|CHE|SHA|SHCHA|HARD SIGN|YERU|SOFT SIGN|E|YU|YA",
  "0430 CYRILLIC SMALL LETTER:A|BE|VE|GHE|DE|IE|ZHE|ZE|I|SHORT I|KA|EL|EM|EN|O|PE",
  "0440 CYRILLIC SMALL LETTER:ER|ES|TE|U|EF|HA|TSE|CHE|SHA|SHCHA|HARD SIGN|YERU|SOFT SIGN|E|YU|YA",
  "0450 CYRILLIC SMALL LETTER:IE WITH GRAVE|IO|DJE|GJE|UKRAINIAN IE|DZE|BYELORUSSIAN-UKRAINIAN I",
  "0457 CYRILLIC SMALL LETTER:YI|JE|LJE|NJE|TSHE|KJE|I WITH GRAVE|SHORT U|DZHE",
  "0460 CYRILLIC:CAPITAL LETTER OMEGA|SMALL LETTER OMEGA|CAPITAL LETTER YAT|SMALL LETTER YAT",
  "0464 CYRILLIC:CAPITAL LETTER IOTIFIED E|SMALL LETTER IOTIFIED E|CAPITAL LETTER LITTLE YUS",
  "0467 CYRILLIC:SMALL LETTER LITTLE YUS|CAPITAL LETTER IOTIFIED LITTLE YUS",
  "0469 CYRILLIC:SMALL LETTER IOTIFIED LITTLE YUS|CAPITAL LETTER BIG YUS|SMALL LETTER BIG YUS",
  "046C CYRILLIC:CAPITAL LETTER IOTIFIED BIG YUS|SMALL LETTER IOTIFIED BIG YUS",
  "046E CYRILLIC:CAPITAL LETTER KSI|SMALL LETTER KSI|CAPITAL LETTER PSI",
  "0471 CYRILLIC:SMALL LETTER PSI|CAPITAL LETTER FITA|SMALL LETTER FITA|CAPITAL LETTER IZHITSA",
  "0475 CYRILLIC:SMALL LETTER IZHITSA|CAPITAL LETTER IZHITSA WITH DOUBLE GRAVE ACCENT",
  "0477 CYRILLIC:SMALL LETTER IZHITSA WITH DOUBLE GRAVE ACCENT|CAPITAL LETTER UK",
  "0479 CYRILLIC:SMALL LETTER UK|CAPITAL LETTER ROUND OMEGA|SMALL LETTER ROUND OMEGA",
  "047C CYRILLIC:CAPITAL LETTER OMEGA WITH TITLO|SMALL LETTER OMEGA WITH TITLO|CAPITAL LETTER OT",
  "047F CYRILLIC:SMALL LETTER OT|CAPITAL LETTER KOPPA|SMALL LETTER KOPPA|THOUSANDS SIGN",
  "0483 COMBINING CYRILLIC:TITLO|PALATALIZATION|DASIA PNEUMATA",
  "0486 COMBINING CYRILLIC:PSILI PNEUMATA|POKRYTIE|HUNDRED THOUSANDS SIGN|MILLIONS SIGN",
  "048A CYRILLIC CAPITAL LETTER SHORT I WITH:TAIL",
  "048B CYRILLIC:SMALL LETTER SHORT I WITH TAIL|CAPITAL LETTER SEMISOFT SIGN",
  "048D CYRILLIC:SMALL LETTER SEMISOFT SIGN|CAPITAL LETTER ER WITH TICK",
  "048F CYRILLIC:SMALL LETTER ER WITH TICK|CAPITAL LETTER GHE WITH UPTURN",
  "0491 CYRILLIC:SMALL LETTER GHE WITH UPTURN|CAPITAL LETTER GHE WITH STROKE",
  "0493 CYRILLIC:SMALL LETTER GHE WITH STROKE|CAPITAL LETTER GHE WITH MIDDLE HOOK",
  "0495 CYRILLIC:SMALL LETTER GHE WITH MIDDLE HOOK|CAPITAL LETTER ZHE WITH DESCENDER",
  "0497 CYRILLIC:SMALL LETTER ZHE WITH DESCENDER|CAPITAL LETTER ZE WITH DESCENDER",
  "0499 CYRILLIC:SMALL LETTER ZE WITH DESCENDER|CAPITAL LETTER KA WITH DESCENDER",
  "049B CYRILLIC:SMALL LETTER KA WITH DESCENDER|CAPITAL LETTER KA WITH VERTICAL STROKE",
  "049D CYRILLIC:SMALL LETTER KA WITH VERTICAL STROKE|CAPITAL LETTER KA WITH STROKE",
  "049F CYRILLIC:SMALL LETTER KA WITH STROKE|CAPITAL LETTER BASHKIR KA|SMALL LETTER BASHKIR KA",
  "04A2 CYRILLIC:CAPITAL LETTER EN WITH DESCENDER|SMALL LETTER EN WITH DESCENDER",
  "04A4 CYRILLIC:CAPITAL LIGATURE EN GHE|SMALL LIGATURE EN GHE|CAPITAL LETTER PE WITH MIDDLE HOOK",
  "04A7 CYRILLIC:SMALL LETTER PE WITH MIDDLE HOOK|CAPITAL LETTER ABKHASIAN HA",
  "04A9 CYRILLIC:SMALL LETTER ABKHASIAN HA|CAPITAL LETTER ES WITH DESCENDER",
  "04AB CYRILLIC:SMALL LETTER ES WITH DESCENDER|CAPITAL LETTER TE WITH DESCENDER",
  "04AD CYRILLIC:SMALL LETTER TE WITH DESCENDER|CAPITAL LETTER STRAIGHT U",
  "04AF CYRILLIC:SMALL LETTER STRAIGHT U|CAPITAL LETTER STRAIGHT U WITH STROKE",
  "04B1 CYRILLIC:SMALL LETTER STRAIGHT U WITH STROKE|CAPITAL LETTER HA WITH DESCENDER",
  "04B3 CYRILLIC:SMALL LETTER HA WITH DESCENDER|CAPITAL LIGATURE TE TSE|SMALL LIGATURE TE TSE",
  "04B6 CYRILLIC:CAPITAL LETTER CHE WITH DESCENDER|SMALL LETTER CHE WITH DESCENDER",
  "04B8 CYRILLIC:CAPITAL LETTER CHE WITH VERTICAL STROKE|SMALL LETTER CHE WITH VERTICAL STROKE",
  "04BA CYRILLIC:CAPITAL LETTER SHHA|SMALL LETTER SHHA|CAPITAL LETTER ABKHASIAN CHE",
  "04BD CYRILLIC:SMALL LETTER ABKHASIAN CHE|CAPITAL LETTER ABKHASIAN CHE WITH DESCENDER",
  "04BF CYRILLIC SMALL LETTER ABKHASIAN CHE WITH:DESCENDER",
  "04C0 CYRILLIC:LETTER PALOCHKA|CAPITAL LETTER ZHE WITH BREVE",
  "04C2 CYRILLIC:SMALL LETTER ZHE WITH BREVE|CAPITAL LETTER KA WITH HOOK",
  "04C4 CYRILLIC:SMALL LETTER KA WITH HOOK|CAPITAL LETTER EL WITH TAIL|SMALL LETTER EL WITH TAIL",
  "04C7 CYRILLIC:CAPITAL LETTER EN WITH HOOK|SMALL LETTER EN WITH HOOK|CAPITAL LETTER EN WITH TAIL",
  "04CA CYRILLIC:SMALL LETTER EN WITH TAIL|CAPITAL LETTER KHAKASSIAN CHE",
  "04CC CYRILLIC:SMALL LETTER KHAKASSIAN CHE|CAPITAL LETTER EM WITH TAIL",
  "04CE CYRILLIC:SMALL LETTER EM WITH TAIL|SMALL LETTER PALOCHKA|CAPITAL LETTER A WITH BREVE",
  "04D1 CYRILLIC:SMALL LETTER A WITH BREVE|CAPITAL LETTER A WITH DIAERESIS",
  "04D3 CYRILLIC:SMALL LETTER A WITH DIAERESIS|CAPITAL LIGATURE A IE",
  "04D5 CYRILLIC:SMALL LIGATURE A IE|CAPITAL LETTER IE WITH BREVE|SMALL LETTER IE WITH BREVE",
  "04D8 CYRILLIC:CAPITAL LETTER SCHWA|SMALL LETTER SCHWA|CAPITAL LETTER SCHWA WITH DIAERESIS",
  "04DB CYRILLIC:SMALL LETTER SCHWA WITH DIAERESIS|CAPITAL LETTER ZHE WITH DIAERESIS",
  "04DD CYRILLIC:SMALL LETTER ZHE WITH DIAERESIS|CAPITAL LETTER ZE WITH DIAERESIS",
  "04DF CYRILLIC:SMALL LETTER ZE WITH DIAERESIS|CAPITAL LETTER ABKHASIAN DZE",
  "04E1 CYRILLIC:SMALL LETTER ABKHASIAN DZE|CAPITAL LETTER I WITH MACRON",
  "04E3 CYRILLIC:SMALL LETTER I WITH MACRON|CAPITAL LETTER I WITH DIAERESIS",
  "04E5 CYRILLIC:SMALL LETTER I WITH DIAERESIS|CAPITAL LETTER O WITH DIAERESIS",
  "04E7 CYRILLIC:SMALL LETTER O WITH DIAERESIS|CAPITAL LETTER BARRED O",
  "04E9 CYRILLIC:SMALL LETTER BARRED O|CAPITAL LETTER BARRED O WITH DIAERESIS",
  "04EB CYRILLIC:SMALL LETTER BARRED O WITH DIAERESIS|CAPITAL LETTER E WITH DIAERESIS",
  "04ED CYRILLIC:SMALL LETTER E WITH DIAERESIS|CAPITAL LETTER U WITH MACRON",
  "04EF CYRILLIC:SMALL LETTER U WITH MACRON|CAPITAL LETTER U WITH DIAERESIS",
  "04F1 CYRILLIC:SMALL LETTER U WITH DIAERESIS|CAPITAL LETTER U WITH DOUBLE ACUTE",
  "04F3 CYRILLIC:SMALL LETTER U WITH DOUBLE ACUTE|CAPITAL LETTER CHE WITH DIAERESIS",
  "04F5 CYRILLIC:SMALL LETTER CHE WITH DIAERESIS|CAPITAL LETTER GHE WITH DESCENDER",
  "04F7 CYRILLIC:SMALL LETTER GHE WITH DESCENDER|CAPITAL LETTER YERU WITH DIAERESIS",
  "04F9 CYRILLIC:SMALL LETTER YERU WITH DIAERESIS|CAPITAL LETTER GHE WITH STROKE AND HOOK",
  "04FB CYRILLIC:SMALL LETTER GHE WITH STROKE AND HOOK|CAPITAL LETTER HA WITH HOOK",
  "04FD CYRILLIC:SMALL LETTER HA WITH HOOK|CAPITAL LETTER HA WITH STROKE",
  "04FF CYRILLIC:SMALL LETTER HA WITH STROKE|CAPITAL LETTER KOMI DE|SMALL LETTER KOMI DE",
  "0502 CYRILLIC:CAPITAL LETTER KOMI DJE|SMALL LETTER KOMI DJE|CAPITAL LETTER KOMI ZJE",
  "0505 CYRILLIC:SMALL LETTER KOMI ZJE|CAPITAL LETTER KOMI DZJE|SMALL LETTER KOMI DZJE",
  "0508 CYRILLIC:CAPITAL LETTER KOMI LJE|SMALL LETTER KOMI LJE|CAPITAL LETTER KOMI NJE",
  "050B CYRILLIC:SMALL LETTER KOMI NJE|CAPITAL LETTER KOMI SJE|SMALL LETTER KOMI SJE",
  "050E CYRILLIC:CAPITAL LETTER KOMI TJE|SMALL LETTER KOMI TJE|CAPITAL LETTER REVERSED ZE",
  "0511 CYRILLIC:SMALL LETTER REVERSED ZE|CAPITAL LETTER EL WITH HOOK|SMALL LETTER EL WITH HOOK",
  "0514 CYRILLIC:CAPITAL LETTER LHA|SMALL LETTER LHA|CAPITAL LETTER RHA|SMALL LETTER RHA",
  "0518 CYRILLIC:CAPITAL LETTER YAE|SMALL LETTER YAE|CAPITAL LETTER QA|SMALL LETTER QA",
  "051C CYRILLIC:CAPITAL LETTER WE|SMALL LETTER WE|CAPITAL LETTER ALEUT KA|SMALL LETTER ALEUT KA",
  "0520 CYRILLIC:CAPITAL LETTER EL WITH MIDDLE HOOK|SMALL LETTER EL WITH MIDDLE HOOK",
  "0522 CYRILLIC:CAPITAL LETTER EN WITH MIDDLE HOOK|SMALL LETTER EN WITH MIDDLE HOOK",
  "0524 CYRILLIC:CAPITAL LETTER PE WITH DESCENDER|SMALL LETTER PE WITH DESCENDER",
  "0526 CYRILLIC:CAPITAL LETTER SHHA WITH DESCENDER|SMALL LETTER SHHA WITH DESCENDER",
  "0528 CYRILLIC:CAPITAL LETTER EN WITH LEFT HOOK|SMALL LETTER EN WITH LEFT HOOK",
  "052A CYRILLIC:CAPITAL LETTER DZZHE|SMALL LETTER DZZHE|CAPITAL LETTER DCHE",
  "052D CYRILLIC:SMALL LETTER DCHE|CAPITAL LETTER EL WITH DESCENDER|SMALL LETTER EL WITH DESCENDER",
  "0531 ARMENIAN CAPITAL LETTER:AYB|BEN|GIM|DA",
  "0535 ARMENIAN CAPITAL LETTER:ECH|ZA|EH|ET|TO|ZHE|INI|LIWN|XEH|CA|KEN|HO|JA|GHAD|CHEH|MEN|YI|NOW",
  "0547 ARMENIAN CAPITAL LETTER:SHA|VO|CHA|PEH|JHEH|RA|SEH|VEW|TIWN|REH|CO|YIWN|PIWR|KEH|OH|FEH",
  "0559 ARMENIAN MODIFIER LETTER LEFT HALF:RING",
  "055A ARMENIAN:APOSTROPHE|EMPHASIS MARK|EXCLAMATION MARK|COMMA|QUESTION MARK|ABBREVIATION MARK",
  "0560 ARMENIAN SMALL LETTER:TURNED AYB|AYB|BEN|GIM",
  "0564 ARMENIAN SMALL LETTER:DA|ECH|ZA|EH|ET|TO|ZHE|INI|LIWN|XEH|CA|KEN|HO|JA|GHAD|CHEH|MEN|YI",
  "0576 ARMENIAN SMALL LETTER:NOW|SHA|VO|CHA|PEH|JHEH|RA|SEH|VEW|TIWN|REH|CO|YIWN|PIWR|KEH|OH|FEH",
  "0587 ARMENIAN:SMALL LIGATURE ECH YIWN|SMALL LETTER YI WITH STROKE|FULL STOP|HYPHEN",
  "058D :RIGHT-FACING ARMENIAN ETERNITY SIGN|LEFT-FACING ARMENIAN ETERNITY SIGN|ARMENIAN DRAM SIGN",
  "0591 HEBREW ACCENT:ETNAHTA|SEGOL|SHALSHELET|ZAQEF QATAN|ZAQEF GADOL",
  "0596 HEBREW ACCENT:TIPEHA|REVIA|ZARQA|PASHTA|YETIV|TEVIR|GERESH|GERESH MUQDAM|GERSHAYIM",
  "059F HEBREW ACCENT:QARNEY PARA|TELISHA GEDOLA|PAZER|ATNAH HAFUKH|MUNAH|MAHAPAKH|MERKHA",
  "05A6 HEBREW ACCENT:MERKHA KEFULA|DARGA|QADMA|TELISHA QETANA|YERAH BEN YOMO|OLE|ILUY|DEHI|ZINOR",
  "05AF HEBREW MARK MASORA:CIRCLE",
  "05B0 HEBREW POINT:SHEVA|HATAF SEGOL|HATAF PATAH|HATAF QAMATS|HIRIQ|TSERE",
  "05B6 HEBREW POINT:SEGOL|PATAH|QAMATS|HOLAM|HOLAM HASER FOR VAV|QUBUTS|DAGESH OR MAPIQ|METEG",
  "05BE HEBREW PUNCTUATION:MAQAF",
  "05BF HEBREW:POINT RAFE|PUNCTUATION PASEQ|POINT SHIN DOT|POINT SIN DOT|PUNCTUATION SOF PASUQ",
  "05C4 HEBREW:MARK UPPER DOT|MARK LOWER DOT|PUNCTUATION NUN HAFUKHA|POINT QAMATS QATAN",
  "05D0 HEBREW LETTER:ALEF",
  "05D1 HEBREW LETTER:BET|GIMEL|DALET|HE|VAV|ZAYIN|HET|TET|YOD|FINAL KAF|KAF|LAMED|FINAL MEM|MEM",
  "05DF HEBREW LETTER:FINAL NUN|NUN|SAMEKH|AYIN|FINAL PE|PE|FINAL TSADI|TSADI|QOF|RESH|SHIN|TAV",
  "05EF HEBREW YOD:TRIANGLE",
  "05F0 HEBREW LIGATURE YIDDISH:DOUBLE VAV|VAV YOD|DOUBLE YOD",
  "05F3 HEBREW PUNCTUATION:GERESH|GERSHAYIM",
  "0600 ARABIC:NUMBER SIGN|SIGN SANAH|FOOTNOTE MARKER|SIGN SAFHA|SIGN SAMVAT|NUMBER MARK ABOVE",
  "0606 ARABIC-INDIC:CUBE ROOT|FOURTH ROOT",
  "0608 ARABIC:RAY",
  "0609 ARABIC-INDIC PER:MILLE SIGN|TEN THOUSAND SIGN",
  "060B AFGHANI:SIGN",
  "060C ARABIC:COMMA|DATE SEPARATOR|POETIC VERSE SIGN|SIGN MISRA|SIGN SALLALLAHOU ALAYHE WASSALLAM",
  "0611 ARABIC SIGN:ALAYHE ASSALLAM|RAHMATULLAH ALAYHE|RADI ALLAHOU ANHU|TAKHALLUS",
  "0615 ARABIC SMALL:HIGH TAH|HIGH LIGATURE ALEF WITH LAM WITH YEH|HIGH ZAIN|FATHA|DAMMA|KASRA",
  "061B ARABIC:SEMICOLON|LETTER MARK|END OF TEXT MARK|TRIPLE DOT PUNCTUATION MARK|QUESTION MARK",
  "0620 ARABIC LETTER:KASHMIRI YEH|HAMZA|ALEF WITH MADDA ABOVE|ALEF WITH HAMZA ABOVE",
  "0624 ARABIC LETTER:WAW WITH HAMZA ABOVE|ALEF WITH HAMZA BELOW|YEH WITH HAMZA ABOVE",
  "0627 ARABIC LETTER:ALEF|BEH|TEH MARBUTA|TEH|THEH|JEEM|HAH|KHAH|DAL|THAL|REH|ZAIN|SEEN|SHEEN|SAD",
  "0636 ARABIC LETTER:DAD|TAH|ZAH|AIN|GHAIN|KEHEH WITH TWO DOTS ABOVE|KEHEH WITH THREE DOTS BELOW",
  "063D ARABIC LETTER FARSI YEH WITH:INVERTED V|TWO DOTS ABOVE|THREE DOTS ABOVE",
  "0640 ARABIC:TATWEEL",
  "0641 ARABIC LETTER:FEH|QAF|KAF|LAM|MEEM|NOON|HEH|WAW|ALEF MAKSURA|YEH",
  "064B ARABIC:FATHATAN|DAMMATAN|KASRATAN|FATHA|DAMMA|KASRA|SHADDA|SUKUN|MADDAH ABOVE",
  "0654 ARABIC:HAMZA ABOVE|HAMZA BELOW|SUBSCRIPT ALEF|INVERTED DAMMA|MARK NOON GHUNNA|ZWARAKAY",
  "065A ARABIC VOWEL SIGN:SMALL V ABOVE|INVERTED SMALL V ABOVE|DOT BELOW",
  "065D ARABIC:REVERSED DAMMA|FATHA WITH TWO DOTS|WAVY HAMZA BELOW",
  "0660 ARABIC-INDIC DIGIT:ZERO|ONE|TWO|THREE|FOUR|FIVE|SIX|SEVEN|EIGHT|NINE",
  "066A ARABIC:PERCENT SIGN|DECIMAL SEPARATOR|THOUSANDS SEPARATOR|FIVE POINTED STAR",
  "066E ARABIC LETTER:DOTLESS BEH|DOTLESS QAF|SUPERSCRIPT ALEF|ALEF WASLA",
  "0672 ARABIC LETTER ALEF WITH WAVY HAMZA:ABOVE|BELOW",
  "0674 ARABIC LETTER:HIGH HAMZA|HIGH HAMZA ALEF|HIGH HAMZA WAW|U WITH HAMZA ABOVE|HIGH HAMZA YEH",
  "0679 ARABIC LETTER:TTEH|TTEHEH|BEEH|TEH WITH RING|TEH WITH THREE DOTS ABOVE DOWNWARDS",
  "067E ARABIC LETTER:PEH|TEHEH|BEHEH|HAH WITH HAMZA ABOVE|HAH WITH TWO DOTS VERTICAL ABOVE",
  "0683 ARABIC LETTER:NYEH|DYEH|HAH WITH THREE DOTS ABOVE|TCHEH|TCHEHEH|DDAL",
  "0689 ARABIC LETTER DAL WITH:RING|DOT BELOW|DOT BELOW AND SMALL TAH",
  "068C ARABIC LETTER:DAHAL|DDAHAL|DUL|DAL WITH THREE DOTS ABOVE DOWNWARDS",
  "0690 ARABIC LETTER:DAL WITH FOUR DOTS ABOVE|RREH|REH WITH SMALL V",
  "0693 ARABIC LETTER REH WITH:RING|DOT BELOW|SMALL V BELOW|DOT BELOW AND DOT ABOVE|TWO DOTS ABOVE",
  "0698 ARABIC LETTER:JEH|REH WITH FOUR DOTS ABOVE|SEEN WITH DOT BELOW AND DOT ABOVE",
  "069B ARABIC LETTER SEEN WITH THREE DOTS:BELOW|BELOW AND THREE DOTS ABOVE",
  "069D ARABIC LETTER SAD WITH:TWO DOTS BELOW|THREE DOTS ABOVE",
  "069F ARABIC LETTER:TAH WITH THREE DOTS ABOVE|AIN WITH THREE DOTS ABOVE|DOTLESS FEH",
  "06A2 ARABIC LETTER:FEH WITH DOT MOVED BELOW|FEH WITH DOT BELOW|VEH|FEH WITH THREE DOTS BELOW",
  "06A6 ARABIC LETTER:PEHEH|QAF WITH DOT ABOVE|QAF WITH THREE DOTS ABOVE|KEHEH",
  "06AA ARABIC LETTER:SWASH KAF|KAF WITH RING|KAF WITH DOT ABOVE|NG|KAF WITH THREE DOTS BELOW|GAF",
  "06B0 ARABIC LETTER:GAF WITH RING|NGOEH|GAF WITH TWO DOTS BELOW|GUEH|GAF WITH THREE DOTS ABOVE",
  "06B5 ARABIC LETTER LAM WITH:SMALL V|DOT ABOVE|THREE DOTS ABOVE|THREE DOTS BELOW",
  "06B9 ARABIC LETTER:NOON WITH DOT BELOW|NOON GHUNNA|RNOON|NOON WITH RING",
  "06BD ARABIC LETTER:NOON WITH THREE DOTS ABOVE|HEH DOACHASHMEE|TCHEH WITH DOT ABOVE",
  "06C0 ARABIC LETTER:HEH WITH YEH ABOVE|HEH GOAL|HEH GOAL WITH HAMZA ABOVE|TEH MARBUTA GOAL",
  "06C4 ARABIC LETTER:WAW WITH RING|KIRGHIZ OE|OE|U|YU|KIRGHIZ YU|WAW WITH TWO DOTS ABOVE",
  "06CB ARABIC LETTER:VE|FARSI YEH|YEH WITH TAIL|YEH WITH SMALL V|WAW WITH DOT ABOVE|E",
  "06D1 ARABIC LETTER YEH:WITH THREE DOTS BELOW|BARREE|BARREE WITH HAMZA ABOVE",
  "06D4 ARABIC:FULL STOP|LETTER AE",
  "06D6 ARABIC SMALL HIGH LIGATURE:SAD WITH LAM WITH ALEF MAKSURA|QAF WITH LAM WITH ALEF MAKSURA",
  "06D8 ARABIC SMALL HIGH:MEEM INITIAL FORM|LAM ALEF|JEEM|THREE DOTS|SEEN",
  "06DD ARABIC:END OF AYAH|START OF RUB EL HIZB",
  "06DF ARABIC SMALL HIGH:ROUNDED ZERO|UPRIGHT RECTANGULAR ZERO|DOTLESS HEAD OF KHAH",
  "06E2 ARABIC SMALL:HIGH MEEM ISOLATED FORM|LOW SEEN|HIGH MADDA|WAW|YEH|HIGH YEH|HIGH NOON",
  "06E9 ARABIC PLACE OF:SAJDAH",
  "06EA ARABIC EMPTY CENTRE:LOW STOP|HIGH STOP",
  "06EC ARABIC:ROUNDED HIGH STOP WITH FILLED CENTRE|SMALL LOW MEEM",
  "06EE ARABIC LETTER:DAL WITH INVERTED V|REH WITH INVERTED V",
  "06F0 EXTENDED ARABIC-INDIC DIGIT:ZERO|ONE|TWO|THREE|FOUR|FIVE|SIX|SEVEN|EIGHT|NINE",
  "06FA ARABIC LETTER:SHEEN WITH DOT BELOW|DAD WITH DOT BELOW|GHAIN WITH DOT BELOW",
  "06FD ARABIC:SIGN SINDHI AMPERSAND|SIGN SINDHI POSTPOSITION MEN|LETTER HEH WITH INVERTED V",
  "0700 SYRIAC:END OF PARAGRAPH|SUPRALINEAR FULL STOP",
  "0702 SYRIAC:SUBLINEAR FULL STOP|SUPRALINEAR COLON|SUBLINEAR COLON|HORIZONTAL COLON",
  "0706 SYRIAC COLON SKEWED:LEFT|RIGHT",
  "0708 SYRIAC:SUPRALINEAR COLON SKEWED LEFT|SUBLINEAR COLON SKEWED RIGHT|CONTRACTION",
  "070B SYRIAC HARKLEAN:OBELUS|METOBELUS|ASTERISCUS",
  "070F SYRIAC ABBREVIATION:MARK",
  "0710 SYRIAC LETTER:ALAPH|SUPERSCRIPT ALAPH|BETH|GAMAL|GAMAL GARSHUNI|DALATH|DOTLESS DALATH RISH",
  "0717 SYRIAC LETTER:HE|WAW|ZAIN|HETH|TETH|TETH GARSHUNI|YUDH|YUDH HE|KAPH|LAMADH",
  "0721 SYRIAC LETTER:MIM|NUN|SEMKATH|FINAL SEMKATH|E|PE|REVERSED PE|SADHE|QAPH|RISH|SHIN|TAW",
  "072D SYRIAC LETTER PERSIAN:BHETH|GHAMAL|DHALATH",
  "0730 SYRIAC PTHAHA:ABOVE|BELOW|DOTTED",
  "0733 SYRIAC ZQAPHA:ABOVE|BELOW|DOTTED",
  "0736 SYRIAC RBASA:ABOVE|BELOW",
  "0738 SYRIAC DOTTED ZLAMA:HORIZONTAL|ANGULAR",
  "073A SYRIAC HBASA:ABOVE|BELOW",
  "073C SYRIAC:HBASA-ESASA DOTTED|ESASA ABOVE|ESASA BELOW|RWAHA|FEMININE DOT|QUSHSHAYA|RUKKAKHA",
  "0743 SYRIAC TWO VERTICAL DOTS:ABOVE|BELOW",
  "0745 SYRIAC THREE DOTS:ABOVE|BELOW",
  "0747 SYRIAC OBLIQUE LINE:ABOVE|BELOW",
  "0749 SYRIAC:MUSIC|BARREKH",
  "074D SYRIAC LETTER SOGDIAN:ZHAIN|KHAPH|FE",
  "0750 ARABIC LETTER BEH WITH:THREE DOTS HORIZONTALLY BELOW|DOT BELOW AND THREE DOTS ABOVE",
  "0752 ARABIC LETTER BEH WITH THREE DOTS POINTING UPWARDS:BELOW|BELOW AND TWO DOTS ABOVE",
  "0754 ARABIC LETTER BEH WITH:TWO DOTS BELOW AND DOT ABOVE|INVERTED SMALL V BELOW|SMALL V",
  "0757 ARABIC LETTER HAH WITH:TWO DOTS ABOVE|THREE DOTS POINTING UPWARDS BELOW",
  "0759 ARABIC LETTER DAL WITH:TWO DOTS VERTICALLY BELOW AND SMALL TAH|INVERTED SMALL V BELOW",
  "075B ARABIC LETTER:REH WITH STROKE|SEEN WITH FOUR DOTS ABOVE|AIN WITH TWO DOTS ABOVE",
  "075E ARABIC LETTER AIN WITH:THREE DOTS POINTING DOWNWARDS ABOVE|TWO DOTS VERTICALLY ABOVE",
  "0760 ARABIC LETTER FEH WITH:TWO DOTS BELOW|THREE DOTS POINTING UPWARDS BELOW",
  "0762 ARABIC LETTER KEHEH WITH:DOT ABOVE|THREE DOTS ABOVE|THREE DOTS POINTING UPWARDS BELOW",
  "0765 ARABIC LETTER MEEM WITH DOT:ABOVE|BELOW",
  "0767 ARABIC LETTER NOON WITH:TWO DOTS BELOW|SMALL TAH|SMALL V",
  "076A ARABIC LETTER:LAM WITH BAR|REH WITH TWO DOTS VERTICALLY ABOVE",
  "076C ARABIC LETTER:REH WITH HAMZA ABOVE|SEEN WITH TWO DOTS VERTICALLY ABOVE",
  "076E ARABIC LETTER HAH WITH SMALL ARABIC LETTER TAH:BELOW|AND TWO DOTS",
  "0770 ARABIC LETTER SEEN WITH SMALL ARABIC LETTER TAH AND TWO:DOTS",
  "0771 ARABIC LETTER REH WITH SMALL ARABIC LETTER TAH AND TWO:DOTS",
  "0772 ARABIC LETTER HAH WITH SMALL ARABIC LETTER TAH:ABOVE",
  "0773 ARABIC LETTER ALEF WITH EXTENDED ARABIC-INDIC DIGIT:TWO ABOVE|THREE ABOVE",
  "0775 ARABIC LETTER FARSI YEH WITH EXTENDED ARABIC-INDIC DIGIT:TWO ABOVE|THREE ABOVE|FOUR BELOW",
  "0778 ARABIC LETTER WAW WITH EXTENDED ARABIC-INDIC DIGIT:TWO ABOVE|THREE ABOVE",
  "077A ARABIC LETTER YEH BARREE WITH EXTENDED ARABIC-INDIC DIGIT:TWO ABOVE|THREE ABOVE",
  "077C ARABIC LETTER HAH WITH EXTENDED ARABIC-INDIC DIGIT FOUR:BELOW",
  "077D ARABIC LETTER SEEN WITH:EXTENDED ARABIC-INDIC DIGIT FOUR ABOVE|INVERTED V",
  "077F ARABIC LETTER KAF WITH TWO DOTS:ABOVE",
  "0780 THAANA LETTER:HAA|SHAVIYANI|NOONU",
  "0783 THAANA LETTER:RAA|BAA|LHAVIYANI|KAAFU|ALIFU|VAAVU|MEEMU|FAAFU|DHAALU|THAA|LAAMU|GAAFU",
  "078F THAANA LETTER:GNAVIYANI|SEENU|DAVIYANI|ZAVIYANI|TAVIYANI|YAA|PAVIYANI|JAVIYANI|CHAVIYANI",
  "0798 THAANA LETTER:TTAA|HHAA|KHAA|THAALU|ZAA|SHEENU|SAADHU|DAADHU|TO|ZO|AINU|GHAINU|QAAFU|WAAVU",
  "07A6 THAANA:ABAFILI|AABAAFILI|IBIFILI",
  "07A9 THAANA:EEBEEFILI|UBUFILI|OOBOOFILI|EBEFILI|EYBEYFILI|OBOFILI|OABOAFILI|SUKUN|LETTER NAA",
  "07C0 NKO DIGIT:ZERO|ONE|TWO|THREE|FOUR|FIVE|SIX|SEVEN|EIGHT|NINE",
  "07CA NKO LETTER:A|EE|I|E|U|OO|O|DAGBASINNA|N|BA|PA|TA|JA|CHA|DA|RA|RRA|SA",
  "07DC NKO LETTER:GBA|FA|KA|LA|NA WOLOSO|MA|NYA|NA|HA|WA|YA|NYA WOLOSO|JONA JA|JONA CHA|JONA RA",
  "07EB NKO COMBINING SHORT:HIGH TONE|LOW TONE|RISING TONE",
  "07EE NKO COMBINING LONG:DESCENDING TONE|HIGH TONE|LOW TONE|RISING TONE",
  "07F2 NKO COMBINING:NASALIZATION MARK|DOUBLE DOT ABOVE",
  "07F4 NKO:HIGH TONE APOSTROPHE|LOW TONE APOSTROPHE",
  "07F6 NKO:SYMBOL OO DENNEN|SYMBOL GBAKURUNEN|COMMA|EXCLAMATION MARK|LAJANYALAN",
  "07FD NKO:DANTAYALAN|DOROME SIGN|TAMAN SIGN",
  "0800 SAMARITAN LETTER:ALAF|BIT|GAMAN|DALAT|IY|BAA|ZEN",
  "0807 SAMARITAN LETTER:IT|TIT|YUT|KAAF|LABAT|MIM|NUN|SINGAAT|IN|FI|TSAADIY|QUF|RISH|SHAN|TAAF",
  "0816 SAMARITAN MARK:IN|IN-ALAF|OCCLUSION|DAGESH",
  "081A SAMARITAN:MODIFIER LETTER EPENTHETIC YUT|MARK EPENTHETIC YUT",
  "081C SAMARITAN VOWEL SIGN:LONG E|E|OVERLONG AA|LONG AA|AA|OVERLONG A|LONG A|A",
  "0824 SAMARITAN MODIFIER LETTER SHORT:A",
  "0825 SAMARITAN VOWEL SIGN:SHORT A|LONG U|U",
  "0828 SAMARITAN MODIFIER LETTER:I",
  "0829 SAMARITAN VOWEL SIGN:LONG I|I|O|SUKUN",
  "082D SAMARITAN MARK:NEQUDAA",
  "0830 SAMARITAN PUNCTUATION:NEQUDAA|AFSAAQ|ANGED|BAU|ATMAAU|SHIYYAALAA",
  "0836 SAMARITAN ABBREVIATION:MARK",
  "0837 SAMARITAN PUNCTUATION:MELODIC QITSA|ZIQAA|QITSA|ZAEF|TURU|ARKAANU|SOF MASHFAAT|ANNAAU",
  "0840 MANDAIC LETTER:HALQA|AB|AG|AD|AH|USHENNA",
  "0846 MANDAIC LETTER:AZ|IT|ATT|AKSA|AK|AL|AM|AN|AS|IN|AP|ASZ|AQ|AR|ASH|AT|DUSHENNA|KAD|AIN",
  "0859 MANDAIC:AFFRICATION MARK|VOCALIZATION MARK|GEMINATION MARK",
  "085E MANDAIC:PUNCTUATION",
  "0860 SYRIAC LETTER MALAYALAM:NGA|JA|NYA|TTA|NNA|NNNA|BHA|RA|LLA|LLLA|SSA",
  "0870 ARABIC LETTER ALEF WITH ATTACHED:FATHA|TOP RIGHT FATHA",
  "0872 ARABIC LETTER ALEF WITH:RIGHT MIDDLE STROKE|LEFT MIDDLE STROKE",
  "0874 ARABIC LETTER ALEF WITH ATTACHED:KASRA|BOTTOM RIGHT KASRA|ROUND DOT ABOVE",
  "0877 ARABIC LETTER ALEF WITH ATTACHED:RIGHT ROUND DOT|LEFT ROUND DOT|ROUND DOT BELOW",
  "087A ARABIC LETTER ALEF WITH:DOT ABOVE|ATTACHED TOP RIGHT FATHA AND DOT ABOVE",
  "087C ARABIC LETTER ALEF WITH RIGHT MIDDLE STROKE AND DOT:ABOVE",
  "087D ARABIC LETTER ALEF WITH ATTACHED BOTTOM RIGHT KASRA AND DOT:ABOVE",
  "087E ARABIC LETTER ALEF WITH ATTACHED TOP RIGHT FATHA AND LEFT:RING",
  "087F ARABIC LETTER ALEF WITH RIGHT MIDDLE STROKE AND LEFT:RING",
  "0880 ARABIC LETTER ALEF WITH ATTACHED:BOTTOM RIGHT KASRA AND LEFT RING|RIGHT HAMZA|LEFT HAMZA",
  "0883 ARABIC TATWEEL WITH:OVERSTRUCK HAMZA|OVERSTRUCK WAW|TWO DOTS BELOW",
  "0886 ARABIC:LETTER THIN YEH|BASELINE ROUND DOT|RAISED ROUND DOT",
  "0889 ARABIC LETTER:NOON WITH INVERTED SMALL V|HAH WITH INVERTED SMALL V BELOW",
  "088B ARABIC LETTER TAH WITH:DOT BELOW|THREE DOTS BELOW",
  "088D ARABIC:LETTER KEHEH WITH TWO DOTS VERTICALLY BELOW|VERTICAL TAIL",
  "0890 ARABIC:POUND MARK ABOVE|PIASTRE MARK ABOVE",
  "0898 ARABIC SMALL:HIGH WORD AL-JUZ|LOW WORD ISHMAAM|LOW WORD IMAALA|LOW WORD TASHEEL",
  "089C ARABIC:MADDA WAAJIB|SUPERSCRIPT ALEF MOKHASSAS|DOUBLED MADDA|HALF MADDA OVER MADDA",
  "08A0 ARABIC LETTER:BEH WITH SMALL V BELOW|BEH WITH HAMZA ABOVE|JEEM WITH TWO DOTS ABOVE",
  "08A3 ARABIC LETTER:TAH WITH TWO DOTS ABOVE|FEH WITH DOT BELOW AND THREE DOTS ABOVE",
  "08A5 ARABIC LETTER:QAF WITH DOT BELOW|LAM WITH DOUBLE BAR|MEEM WITH THREE DOTS ABOVE",
  "08A8 ARABIC LETTER YEH WITH TWO DOTS BELOW AND:HAMZA ABOVE|DOT ABOVE",
  "08AA ARABIC LETTER:REH WITH LOOP|WAW WITH DOT WITHIN|ROHINGYA YEH|LOW ALEF",
  "08AE ARABIC LETTER:DAL WITH THREE DOTS BELOW|SAD WITH THREE DOTS BELOW|GAF WITH INVERTED STROKE",
  "08B1 ARABIC LETTER:STRAIGHT WAW|ZAIN WITH INVERTED V ABOVE|AIN WITH THREE DOTS BELOW",
  "08B4 ARABIC LETTER:KAF WITH DOT BELOW|QAF WITH DOT BELOW AND NO DOTS ABOVE",
  "08B6 ARABIC LETTER:BEH WITH SMALL MEEM ABOVE|PEH WITH SMALL MEEM ABOVE|TEH WITH SMALL TEH ABOVE",
  "08B9 ARABIC LETTER:REH WITH SMALL NOON ABOVE|YEH WITH TWO DOTS BELOW AND SMALL NOON ABOVE",
  "08BB ARABIC LETTER:AFRICAN FEH|AFRICAN QAF|AFRICAN NOON|PEH WITH SMALL V",
  "08BF ARABIC LETTER:TEH WITH SMALL V|TTEH WITH SMALL V|TCHEH WITH SMALL V|KEHEH WITH SMALL V",
  "08C3 ARABIC LETTER:GHAIN WITH THREE DOTS ABOVE|AFRICAN QAF WITH THREE DOTS ABOVE",
  "08C5 ARABIC LETTER JEEM WITH THREE DOTS:ABOVE|BELOW",
  "08C7 ARABIC:LETTER LAM WITH SMALL ARABIC LETTER TAH ABOVE|LETTER GRAF|SMALL FARSI YEH",
  "08CA ARABIC SMALL HIGH:FARSI YEH|YEH BARREE WITH TWO DOTS BELOW|WORD SAH|ZAH",
  "08CE ARABIC LARGE ROUND DOT:ABOVE|BELOW",
  "08D0 ARABIC:SUKUN BELOW|LARGE CIRCLE BELOW|LARGE ROUND DOT INSIDE CIRCLE BELOW|SMALL LOW WAW",
  "08D4 ARABIC SMALL HIGH:WORD AR-RUB|SAD|AIN|QAF|NOON WITH KASRA",
  "08D9 ARABIC SMALL LOW NOON WITH:KASRA",
  "08DA ARABIC SMALL HIGH WORD:ATH-THALATHA|AS-SAJDA|AN-NISF|SAKTA|QIF|WAQFA",
  "08E0 ARABIC SMALL HIGH:FOOTNOTE MARKER|SIGN SAFHA",
  "08E2 ARABIC:DISPUTED END OF AYAH|TURNED DAMMA BELOW",
  "08E4 ARABIC CURLY:FATHA|DAMMA|KASRA|FATHATAN|DAMMATAN|KASRATAN",
  "08EA ARABIC TONE:ONE DOT ABOVE|TWO DOTS ABOVE|LOOP ABOVE|ONE DOT BELOW|TWO DOTS BELOW",
  "08EF ARABIC:TONE LOOP BELOW|OPEN FATHATAN|OPEN DAMMATAN|OPEN KASRATAN|SMALL HIGH WAW",
  "08F4 ARABIC:FATHA WITH RING|FATHA WITH DOT ABOVE|KASRA WITH DOT BELOW|LEFT ARROWHEAD ABOVE",
  "08F8 ARABIC:RIGHT ARROWHEAD ABOVE|LEFT ARROWHEAD BELOW|RIGHT ARROWHEAD BELOW",
  "08FB ARABIC DOUBLE RIGHT ARROWHEAD:ABOVE|ABOVE WITH DOT",
  "08FD ARABIC:RIGHT ARROWHEAD ABOVE WITH DOT|DAMMA WITH DOT|MARK SIDEWAYS NOON GHUNNA",
  "0900 DEVANAGARI SIGN:INVERTED CANDRABINDU|CANDRABINDU|ANUSVARA|VISARGA",
  "0904 DEVANAGARI LETTER:SHORT A|A",
  "0906 DEVANAGARI LETTER:AA|I|II|U|UU|VOCALIC R|VOCALIC L|CANDRA E|SHORT E|E|AI|CANDRA O|SHORT O",
  "0913 DEVANAGARI LETTER:O|AU|KA|KHA|GA|GHA|NGA|CA|CHA|JA|JHA|NYA|TTA|TTHA|DDA|DDHA|NNA|TA|THA",
  "0926 DEVANAGARI LETTER:DA|DHA|NA|NNNA|PA|PHA|BA|BHA|MA|YA|RA|RRA|LA|LLA|LLLA|VA|SHA|SSA|SA|HA",
  "093A DEVANAGARI:VOWEL SIGN OE|VOWEL SIGN OOE|SIGN NUKTA|SIGN AVAGRAHA",
  "093E DEVANAGARI VOWEL SIGN:AA|I|II|U",
  "0942 DEVANAGARI VOWEL SIGN:UU|VOCALIC R|VOCALIC RR|CANDRA E|SHORT E|E|AI|CANDRA O|SHORT O|O|AU",
  "094D DEVANAGARI:SIGN VIRAMA|VOWEL SIGN PRISHTHAMATRA E|VOWEL SIGN AW",
  "0950 DEVANAGARI:OM|STRESS SIGN UDATTA|STRESS SIGN ANUDATTA|GRAVE ACCENT|ACUTE ACCENT",
  "0955 DEVANAGARI VOWEL SIGN:CANDRA LONG E|UE|UUE",
  "0958 DEVANAGARI LETTER:QA|KHHA|GHHA|ZA|DDDHA|RHA|FA|YYA|VOCALIC RR|VOCALIC LL",
  "0962 DEVANAGARI VOWEL SIGN VOCALIC:L|LL",
  "0964 DEVANAGARI:DANDA|DOUBLE DANDA",
  "0966 DEVANAGARI DIGIT:ZERO|ONE|TWO|THREE|FOUR|FIVE|SIX|SEVEN|EIGHT|NINE",
  "0970 DEVANAGARI:ABBREVIATION SIGN|SIGN HIGH SPACING DOT|LETTER CANDRA A",
  "0973 DEVANAGARI LETTER:OE|OOE|AW|UE|UUE|MARWARI DDA|ZHA|HEAVY YA|GGA|JJA|GLOTTAL STOP|DDDA|BBA",
  "0980 BENGALI:ANJI|SIGN CANDRABINDU|SIGN ANUSVARA|SIGN VISARGA",
  "0985 BENGALI LETTER:A|AA|I|II|U|UU|VOCALIC R|VOCALIC L",
  "098F BENGALI LETTER:E|AI",
  "0993 BENGALI LETTER:O|AU",
  "0995 BENGALI LETTER:KA|KHA|GA|GHA|NGA|CA|CHA|JA|JHA|NYA|TTA|TTHA|DDA|DDHA|NNA|TA|THA|DA|DHA|NA",
  "09AA BENGALI LETTER:PA|PHA|BA|BHA|MA|YA|RA",
  "09B2 BENGALI LETTER:LA",
  "09B6 BENGALI LETTER:SHA|SSA|SA|HA",
  "09BC BENGALI SIGN:NUKTA|AVAGRAHA",
  "09BE BENGALI VOWEL SIGN:AA|I|II|U|UU|VOCALIC R|VOCALIC RR",
  "09C7 BENGALI VOWEL SIGN:E|AI",
  "09CB BENGALI:VOWEL SIGN O|VOWEL SIGN AU|SIGN VIRAMA|LETTER KHANDA TA",
  "09D7 BENGALI AU LENGTH:MARK",
  "09DC BENGALI LETTER:RRA|RHA",
  "09DF BENGALI LETTER:YYA|VOCALIC RR|VOCALIC LL",
  "09E2 BENGALI VOWEL SIGN VOCALIC:L|LL",
  "09E6 BENGALI DIGIT:ZERO|ONE|TWO|THREE|FOUR|FIVE|SIX|SEVEN|EIGHT|NINE",
  "09F0 BENGALI LETTER RA WITH:MIDDLE DIAGONAL|LOWER DIAGONAL",
  "09F2 BENGALI RUPEE:MARK|SIGN",
  "09F4 BENGALI CURRENCY NUMERATOR:ONE|TWO|THREE|FOUR|ONE LESS THAN THE DENOMINATOR",
  "09F9 BENGALI CURRENCY DENOMINATOR:SIXTEEN",
  "09FA BENGALI:ISSHAR|GANDA MARK|LETTER VEDIC ANUSVARA|ABBREVIATION SIGN|SANDHI MARK",
  "0A01 GURMUKHI SIGN:ADAK BINDI|BINDI|VISARGA",
  "0A05 GURMUKHI LETTER:A|AA|I|II|U|UU",
  "0A0F GURMUKHI LETTER:EE|AI",
  "0A13 GURMUKHI LETTER:OO|AU",
  "0A15 GURMUKHI LETTER:KA|KHA|GA|GHA|NGA|CA|CHA|JA|JHA|NYA|TTA|TTHA|DDA|DDHA|NNA|TA|THA|DA|DHA|NA",
  "0A2A GURMUKHI LETTER:PA|PHA|BA|BHA|MA|YA|RA",
  "0A32 GURMUKHI LETTER:LA|LLA",
  "0A35 GURMUKHI LETTER:VA|SHA",
  "0A38 GURMUKHI LETTER:SA|HA",
  "0A3C GURMUKHI SIGN:NUKTA",
  "0A3E GURMUKHI VOWEL SIGN:AA|I|II|U|UU",
  "0A47 GURMUKHI VOWEL SIGN:EE|AI",
  "0A4B GURMUKHI:VOWEL SIGN OO|VOWEL SIGN AU|SIGN VIRAMA",
  "0A51 GURMUKHI SIGN:UDAAT",
  "0A59 GURMUKHI LETTER:KHHA|GHHA|ZA|RRA",
  "0A5E GURMUKHI LETTER:FA",
  "0A66 GURMUKHI DIGIT:ZERO|ONE|TWO|THREE|FOUR|FIVE|SIX|SEVEN|EIGHT|NINE",
  "0A70 GURMUKHI:TIPPI|ADDAK|IRI|URA|EK ONKAR|SIGN YAKASH|ABBREVIATION SIGN",
  "0A81 GUJARATI SIGN:CANDRABINDU|ANUSVARA|VISARGA",
  "0A85 GUJARATI LETTER:A|AA|I|II|U|UU|VOCALIC R|VOCALIC L",
  "0A8D GUJARATI VOWEL CANDRA:E",
  "0A8F GUJARATI:LETTER E|LETTER AI|VOWEL CANDRA O",
  "0A93 GUJARATI LETTER:O|AU",
  "0A95 GUJARATI LETTER:KA|KHA|GA|GHA|NGA|CA|CHA|JA|JHA|NYA|TTA|TTHA|DDA|DDHA|NNA|TA|THA|DA|DHA|NA",
  "0AAA GUJARATI LETTER:PA|PHA|BA|BHA|MA|YA|RA",
  "0AB2 GUJARATI LETTER:LA|LLA",
  "0AB5 GUJARATI LETTER:VA|SHA|SSA|SA|HA",
  "0ABC GUJARATI SIGN:NUKTA|AVAGRAHA",
  "0ABE GUJARATI VOWEL SIGN:AA|I|II|U|UU|VOCALIC R|VOCALIC RR|CANDRA E",
  "0AC7 GUJARATI VOWEL SIGN:E|AI|CANDRA O",
  "0ACB GUJARATI:VOWEL SIGN O|VOWEL SIGN AU|SIGN VIRAMA",
  "0AD0 GUJARATI:OM",
  "0AE0 GUJARATI LETTER VOCALIC:RR|LL",
  "0AE2 GUJARATI VOWEL SIGN VOCALIC:L|LL",
  "0AE6 GUJARATI DIGIT:ZERO|ONE|TWO|THREE|FOUR|FIVE|SIX|SEVEN|EIGHT|NINE",
  "0AF0 GUJARATI:ABBREVIATION SIGN|RUPEE SIGN",
  "0AF9 GUJARATI:LETTER ZHA|SIGN SUKUN|SIGN SHADDA",
  "0AFC GUJARATI SIGN:MADDAH|THREE-DOT NUKTA ABOVE|CIRCLE NUKTA ABOVE|TWO-CIRCLE NUKTA ABOVE",
  "0B01 ORIYA SIGN:CANDRABINDU|ANUSVARA|VISARGA",
  "0B05 ORIYA LETTER:A|AA|I|II|U|UU|VOCALIC R|VOCALIC L",
  "0B0F ORIYA LETTER:E|AI",
  "0B13 ORIYA LETTER:O",
  "0B14 ORIYA LETTER:AU|KA|KHA|GA|GHA|NGA|CA|CHA|JA|JHA|NYA|TTA|TTHA|DDA|DDHA|NNA|TA|THA|DA|DHA|NA",
  "0B2A ORIYA LETTER:PA|PHA|BA|BHA|MA|YA|RA",
  "0B32 ORIYA LETTER:LA|LLA",
  "0B35 ORIYA LETTER:VA|SHA|SSA|SA|HA",
  "0B3C ORIYA SIGN:NUKTA|AVAGRAHA",
  "0B3E ORIYA VOWEL SIGN:AA|I|II|U|UU|VOCALIC R|VOCALIC RR",
  "0B47 ORIYA VOWEL SIGN:E|AI",
  "0B4B ORIYA:VOWEL SIGN O|VOWEL SIGN AU|SIGN VIRAMA",
  "0B55 ORIYA:SIGN OVERLINE|AI LENGTH MARK|AU LENGTH MARK",
  "0B5C ORIYA LETTER:RRA|RHA",
  "0B5F ORIYA LETTER:YYA|VOCALIC RR|VOCALIC LL",
  "0B62 ORIYA VOWEL SIGN VOCALIC:L|LL",
  "0B66 ORIYA DIGIT:ZERO|ONE|TWO|THREE|FOUR|FIVE|SIX|SEVEN|EIGHT|NINE",
  "0B70 ORIYA:ISSHAR|LETTER WA|FRACTION ONE QUARTER",
  "0B73 ORIYA FRACTION:ONE HALF|THREE QUARTERS|ONE SIXTEENTH|ONE EIGHTH|THREE SIXTEENTHS",
  "0B82 TAMIL SIGN:ANUSVARA|VISARGA",
  "0B85 TAMIL LETTER:A|AA|I|II|U|UU",
  "0B8E TAMIL LETTER:E|EE|AI",
  "0B92 TAMIL LETTER:O|OO|AU|KA",
  "0B99 TAMIL LETTER:NGA|CA",
  "0B9C TAMIL LETTER:JA",
  "0B9E TAMIL LETTER:NYA|TTA",
  "0BA3 TAMIL LETTER:NNA|TA",
  "0BA8 TAMIL LETTER:NA|NNNA|PA",
  "0BAE TAMIL LETTER:MA|YA|RA|RRA|LA|LLA|LLLA|VA|SHA|SSA|SA|HA",
  "0BBE TAMIL VOWEL SIGN:AA|I|II|U|UU",
  "0BC6 TAMIL VOWEL SIGN:E|EE|AI",
  "0BCA TAMIL VOWEL SIGN:O|OO|AU",
  "0BCD TAMIL SIGN:VIRAMA",
  "0BD0 TAMIL:OM",
  "0BD7 TAMIL AU LENGTH:MARK",
  "0BE6 TAMIL DIGIT:ZERO|ONE|TWO|THREE|FOUR|FIVE|SIX|SEVEN|EIGHT|NINE",
  "0BF0 TAMIL NUMBER:TEN|ONE HUNDRED|ONE THOUSAND",
  "0BF3 TAMIL DAY:SIGN",
  "0BF4 TAMIL:MONTH SIGN|YEAR SIGN|DEBIT SIGN|CREDIT SIGN|AS ABOVE SIGN|RUPEE SIGN|NUMBER SIGN",
  "0C00 TELUGU SIGN COMBINING CANDRABINDU:ABOVE",
  "0C01 TELUGU SIGN:CANDRABINDU|ANUSVARA|VISARGA|COMBINING ANUSVARA ABOVE",
  "0C05 TELUGU LETTER:A|AA|I|II|U|UU|VOCALIC R|VOCALIC L",
  "0C0E TELUGU LETTER:E|EE|AI",
  "0C12 TELUGU LETTER:O|OO|AU",
  "0C15 TELUGU LETTER:KA|KHA|GA|GHA|NGA|CA|CHA|JA|JHA|NYA|TTA|TTHA|DDA|DDHA|NNA|TA|THA|DA|DHA|NA",
  "0C2A TELUGU LETTER:PA|PHA|BA|BHA|MA|YA|RA|RRA|LA|LLA|LLLA|VA|SHA|SSA|SA|HA",
  "0C3C TELUGU SIGN:NUKTA|AVAGRAHA",
  "0C3E TELUGU VOWEL SIGN:AA|I|II|U|UU|VOCALIC R|VOCALIC RR",
  "0C46 TELUGU VOWEL SIGN:E|EE|AI",
  "0C4A TELUGU VOWEL SIGN:O|OO|AU",
  "0C4D TELUGU SIGN:VIRAMA",
  "0C55 TELUGU:LENGTH MARK|AI LENGTH MARK",
  "0C58 TELUGU LETTER:TSA|DZA|RRRA",
  "0C5D TELUGU LETTER NAKAARA:POLLU",
  "0C60 TELUGU LETTER VOCALIC:RR|LL",
  "0C62 TELUGU VOWEL SIGN VOCALIC:L|LL",
  "0C66 TELUGU DIGIT:ZERO|ONE|TWO|THREE|FOUR|FIVE|SIX|SEVEN|EIGHT|NINE",
  "0C77 TELUGU SIGN:SIDDHAM",
  "0C78 TELUGU FRACTION DIGIT:ZERO FOR ODD POWERS OF FOUR|ONE FOR ODD POWERS OF FOUR",
  "0C7A TELUGU FRACTION DIGIT:TWO FOR ODD POWERS OF FOUR|THREE FOR ODD POWERS OF FOUR",
  "0C7C TELUGU FRACTION DIGIT:ONE FOR EVEN POWERS OF FOUR|TWO FOR EVEN POWERS OF FOUR",
  "0C7E TELUGU:FRACTION DIGIT THREE FOR EVEN POWERS OF FOUR|SIGN TUUMU",
  "0C80 KANNADA SIGN:SPACING CANDRABINDU|CANDRABINDU|ANUSVARA|VISARGA|SIDDHAM",
  "0C85 KANNADA LETTER:A|AA|I|II|U|UU|VOCALIC R|VOCALIC L",
  "0C8E KANNADA LETTER:E|EE|AI",
  "0C92 KANNADA LETTER:O|OO|AU",
  "0C95 KANNADA LETTER:KA|KHA|GA|GHA|NGA|CA|CHA|JA|JHA|NYA|TTA|TTHA|DDA|DDHA|NNA|TA|THA|DA|DHA|NA",
  "0CAA KANNADA LETTER:PA|PHA|BA|BHA|MA|YA|RA|RRA|LA|LLA",
  "0CB5 KANNADA LETTER:VA|SHA|SSA|SA|HA",
  "0CBC KANNADA SIGN:NUKTA|AVAGRAHA",
  "0CBE KANNADA VOWEL SIGN:AA|I|II|U|UU|VOCALIC R|VOCALIC RR",
  "0CC6 KANNADA VOWEL SIGN:E|EE|AI",
  "0CCA KANNADA VOWEL SIGN:O|OO|AU",
  "0CCD KANNADA SIGN:VIRAMA",
  "0CD5 KANNADA:LENGTH MARK|AI LENGTH MARK",
  "0CDD KANNADA LETTER:NAKAARA POLLU|FA",
  "0CE0 KANNADA LETTER VOCALIC:RR|LL",
  "0CE2 KANNADA VOWEL SIGN VOCALIC:L|LL",
  "0CE6 KANNADA DIGIT:ZERO|ONE|TWO|THREE|FOUR|FIVE|SIX|SEVEN|EIGHT|NINE",
  "0CF1 KANNADA SIGN:JIHVAMULIYA|UPADHMANIYA",
  "0D00 MALAYALAM SIGN:COMBINING ANUSVARA ABOVE|CANDRABINDU|ANUSVARA|VISARGA",
  "0D04 MALAYALAM LETTER:VEDIC ANUSVARA|A|AA|I|II|U|UU|VOCALIC R|VOCALIC L",
  "0D0E MALAYALAM LETTER:E|EE|AI",
  "0D12 MALAYALAM LETTER:O|OO|AU|KA|KHA|GA|GHA|NGA|CA|CHA|JA|JHA|NYA|TTA|TTHA|DDA|DDHA|NNA|TA|THA",
  "0D26 MALAYALAM LETTER:DA|DHA|NA|NNNA|PA|PHA|BA|BHA|MA|YA|RA|RRA|LA|LLA|LLLA|VA|SHA|SSA|SA|HA",
  "0D3A MALAYALAM:LETTER TTTA|SIGN VERTICAL BAR VIRAMA|SIGN CIRCULAR VIRAMA|SIGN AVAGRAHA",
  "0D3E MALAYALAM VOWEL SIGN:AA|I|II|U|UU|VOCALIC R|VOCALIC RR",
  "0D46 MALAYALAM VOWEL SIGN:E|EE|AI",
  "0D4A MALAYALAM VOWEL SIGN:O|OO|AU",
  "0D4D MALAYALAM:SIGN VIRAMA|LETTER DOT REPH|SIGN PARA",
  "0D54 MALAYALAM LETTER CHILLU:M|Y|LLL",
  "0D57 MALAYALAM:AU LENGTH MARK|FRACTION ONE ONE-HUNDRED-AND-SIXTIETH|FRACTION ONE FORTIETH",
  "0D5A MALAYALAM FRACTION:THREE EIGHTIETHS|ONE TWENTIETH|ONE TENTH|THREE TWENTIETHS|ONE FIFTH",
  "0D5F MALAYALAM LETTER:ARCHAIC II|VOCALIC RR|VOCALIC LL",
  "0D62 MALAYALAM VOWEL SIGN VOCALIC:L|LL",
  "0D66 MALAYALAM DIGIT:ZERO|ONE|TWO|THREE|FOUR|FIVE|SIX|SEVEN|EIGHT|NINE",
  "0D70 MALAYALAM NUMBER:TEN|ONE HUNDRED|ONE THOUSAND",
  "0D73 MALAYALAM FRACTION:ONE QUARTER|ONE HALF|THREE QUARTERS|ONE SIXTEENTH|ONE EIGHTH",
  "0D78 MALAYALAM:FRACTION THREE SIXTEENTHS|DATE MARK",
  "0D7A MALAYALAM LETTER CHILLU:NN|N|RR|L|LL|K",
  "0D81 SINHALA SIGN:CANDRABINDU|ANUSVARAYA|VISARGAYA",
  "0D85 SINHALA LETTER:AYANNA|AAYANNA|AEYANNA|AEEYANNA|IYANNA|IIYANNA|UYANNA|UUYANNA|IRUYANNA",
  "0D8E SINHALA LETTER:IRUUYANNA|ILUYANNA|ILUUYANNA|EYANNA|EEYANNA|AIYANNA|OYANNA|OOYANNA|AUYANNA",
  "0D9A SINHALA LETTER:ALPAPRAANA KAYANNA|MAHAAPRAANA KAYANNA|ALPAPRAANA GAYANNA",
  "0D9D SINHALA LETTER:MAHAAPRAANA GAYANNA|KANTAJA NAASIKYAYA|SANYAKA GAYANNA|ALPAPRAANA CAYANNA",
  "0DA1 SINHALA LETTER:MAHAAPRAANA CAYANNA|ALPAPRAANA JAYANNA|MAHAAPRAANA JAYANNA",
  "0DA4 SINHALA LETTER:TAALUJA NAASIKYAYA|TAALUJA SANYOOGA NAAKSIKYAYA|SANYAKA JAYANNA",
  "0DA7 SINHALA LETTER:ALPAPRAANA TTAYANNA|MAHAAPRAANA TTAYANNA|ALPAPRAANA DDAYANNA",
  "0DAA SINHALA LETTER:MAHAAPRAANA DDAYANNA|MUURDHAJA NAYANNA|SANYAKA DDAYANNA|ALPAPRAANA TAYANNA",
  "0DAE SINHALA LETTER:MAHAAPRAANA TAYANNA|ALPAPRAANA DAYANNA|MAHAAPRAANA DAYANNA|DANTAJA NAYANNA",
  "0DB3 SINHALA LETTER:SANYAKA DAYANNA|ALPAPRAANA PAYANNA|MAHAAPRAANA PAYANNA",
  "0DB6 SINHALA LETTER:ALPAPRAANA BAYANNA|MAHAAPRAANA BAYANNA|MAYANNA|AMBA BAYANNA|YAYANNA|RAYANNA",
  "0DBD SINHALA LETTER DANTAJA:LAYANNA",
  "0DC0 SINHALA LETTER:VAYANNA|TAALUJA SAYANNA",
  "0DC2 SINHALA LETTER:MUURDHAJA SAYANNA|DANTAJA SAYANNA|HAYANNA|MUURDHAJA LAYANNA|FAYANNA",
  "0DCA SINHALA SIGN:AL-LAKUNA",
  "0DCF SINHALA VOWEL SIGN:AELA-PILLA|KETTI AEDA-PILLA",
  "0DD1 SINHALA VOWEL SIGN:DIGA AEDA-PILLA|KETTI IS-PILLA|DIGA IS-PILLA|KETTI PAA-PILLA",
  "0DD6 SINHALA VOWEL SIGN DIGA:PAA-PILLA",
  "0DD8 SINHALA VOWEL SIGN:GAETTA-PILLA|KOMBUVA|DIGA KOMBUVA|KOMBU DEKA|KOMBUVA HAA AELA-PILLA",
  "0DDD SINHALA VOWEL SIGN:KOMBUVA HAA DIGA AELA-PILLA|KOMBUVA HAA GAYANUKITTA|GAYANUKITTA",
  "0DE6 SINHALA LITH DIGIT:ZERO|ONE|TWO|THREE|FOUR|FIVE|SIX|SEVEN|EIGHT|NINE",
  "0DF2 SINHALA VOWEL SIGN DIGA:GAETTA-PILLA|GAYANUKITTA",
  "0DF4 SINHALA PUNCTUATION:KUNDDALIYA",
  "0E01 THAI CHARACTER:KO KAI|KHO KHAI|KHO KHUAT|KHO KHWAI|KHO KHON|KHO RAKHANG",
  "0E07 THAI CHARACTER:NGO NGU|CHO CHAN|CHO CHING|CHO CHANG|SO SO|CHO CHOE|YO YING|DO CHADA",
  "0E0F THAI CHARACTER:TO PATAK|THO THAN|THO NANGMONTHO|THO PHUTHAO|NO NEN|DO DEK|TO TAO|THO THUNG",
  "0E17 THAI CHARACTER:THO THAHAN|THO THONG|NO NU|BO BAIMAI|PO PLA|PHO PHUNG|FO FA|PHO PHAN|FO FAN",
  "0E20 THAI CHARACTER:PHO SAMPHAO|MO MA|YO YAK|RO RUA|RU|LO LING|LU|WO WAEN|SO SALA|SO RUSI",
  "0E2A THAI CHARACTER:SO SUA|HO HIP|LO CHULA|O ANG|HO NOKHUK|PAIYANNOI|SARA A|MAI HAN-AKAT",
  "0E32 THAI CHARACTER SARA:AA|AM|I|II|UE|UEE|U|UU",
  "0E3A THAI CHARACTER:PHINTHU",
  "0E3F THAI CURRENCY SYMBOL:BAHT",
  "0E40 THAI CHARACTER SARA:E|AE|O|AI MAIMUAN|AI MAIMALAI",
  "0E45 THAI CHARACTER:LAKKHANGYAO|MAIYAMOK|MAITAIKHU",
  "0E48 THAI CHARACTER:MAI EK|MAI THO|MAI TRI|MAI CHATTAWA|THANTHAKHAT|NIKHAHIT|YAMAKKAN|FONGMAN",
  "0E50 THAI DIGIT:ZERO|ONE|TWO|THREE|FOUR|FIVE|SIX|SEVEN|EIGHT|NINE",
  "0E5A THAI CHARACTER:ANGKHANKHU|KHOMUT",
  "0E81 LAO LETTER:KO|KHO SUNG",
  "0E84 LAO LETTER KHO:TAM",
  "0E86 LAO LETTER:PALI GHA|NGO|CO|PALI CHA|SO TAM",
  "0E8C LAO LETTER:PALI JHA|NYO",
  "0E8E LAO LETTER PALI:NYA|TTA|TTHA|DDA|DDHA|NNA",
  "0E94 LAO LETTER:DO|TO|THO SUNG|THO TAM",
  "0E98 LAO LETTER:PALI DHA|NO|BO|PO|PHO SUNG|FO TAM|PHO TAM|FO SUNG|PALI BHA|MO|YO|LO LING",
  "0EA5 LAO LETTER LO:LOOT",
  "0EA7 LAO LETTER:WO|SANSKRIT SHA|SANSKRIT SSA|SO SUNG|HO SUNG|PALI LLA|O|HO TAM",
  "0EAF LAO:ELLIPSIS",
  "0EB0 LAO VOWEL SIGN:A|MAI KAN|AA|AM|I|II|Y|YY|U|UU",
  "0EBA LAO:SIGN PALI VIRAMA|VOWEL SIGN MAI KON",
  "0EBC LAO SEMIVOWEL SIGN:LO|NYO",
  "0EC0 LAO VOWEL SIGN:E|EI|O|AY|AI",
  "0EC6 LAO KO:LA",
  "0EC8 LAO TONE MAI:EK|THO|TI|CATAWA",
  "0ECC LAO:CANCELLATION MARK|NIGGAHITA",
  "0ED0 LAO DIGIT:ZERO|ONE|TWO|THREE|FOUR|FIVE|SIX|SEVEN|EIGHT|NINE",
  "0EDC LAO HO:NO|MO",
  "0EDE LAO LETTER KHMU:GO|NYO",
  "0F00 TIBETAN SYLLABLE:OM",
  "0F01 TIBETAN MARK GTER YIG MGO:TRUNCATED A|-UM RNAM BCAD MA|-UM GTER TSHEG MA",
  "0F04 TIBETAN MARK INITIAL YIG MGO MDUN:MA",
  "0F05 TIBETAN MARK:CLOSING YIG MGO SGAB MA|CARET YIG MGO PHUR SHAD MA|YIG MGO TSHEG SHAD MA",
  "0F08 TIBETAN MARK:SBRUL SHAD|BSKUR YIG MGO|BKA- SHOG YIG MGO|INTERSYLLABIC TSHEG",
  "0F0C TIBETAN MARK:DELIMITER TSHEG BSTAR|SHAD|NYIS SHAD|TSHEG SHAD|NYIS TSHEG SHAD",
  "0F11 TIBETAN MARK:RIN CHEN SPUNGS SHAD|RGYA GRAM SHAD|CARET -DZUD RTAGS ME LONG CAN|GTER TSHEG",
  "0F15 TIBETAN LOGOTYPE SIGN:CHAD RTAGS|LHAG RTAGS",
  "0F17 TIBETAN ASTROLOGICAL SIGN:SGRA GCAN -CHAR RTAGS|-KHYUD PA|SDONG TSHUGS",
  "0F1A TIBETAN SIGN RDEL:DKAR GCIG|DKAR GNYIS|DKAR GSUM|NAG GCIG|NAG GNYIS|DKAR RDEL NAG",
  "0F20 TIBETAN DIGIT:ZERO|ONE|TWO|THREE|FOUR|FIVE|SIX|SEVEN|EIGHT|NINE",
  "0F2A TIBETAN DIGIT HALF:ONE|TWO|THREE|FOUR|FIVE|SIX|SEVEN|EIGHT|NINE|ZERO",
  "0F34 TIBETAN MARK:BSDUS RTAGS|NGAS BZUNG NYI ZLA|CARET -DZUD RTAGS BZHI MIG CAN",
  "0F37 TIBETAN MARK:NGAS BZUNG SGOR RTAGS|CHE MGO|TSA -PHRU|GUG RTAGS GYON|GUG RTAGS GYAS",
  "0F3C TIBETAN MARK ANG KHANG:GYON|GYAS",
  "0F3E TIBETAN SIGN:YAR TSHES|MAR TSHES",
  "0F40 TIBETAN LETTER:KA|KHA|GA|GHA|NGA|CA|CHA|JA",
  "0F49 TIBETAN LETTER:NYA|TTA|TTHA|DDA|DDHA|NNA|TA|THA|DA|DHA|NA|PA|PHA|BA|BHA|MA|TSA|TSHA",
  "0F5B TIBETAN LETTER:DZA|DZHA|WA|ZHA|ZA|-A|YA|RA|LA|SHA|SSA|SA|HA|A|KSSA|FIXED-FORM RA|KKA|RRA",
  "0F71 TIBETAN VOWEL SIGN:AA|I|II|U|UU|VOCALIC R|VOCALIC RR|VOCALIC L|VOCALIC LL|E|EE|O|OO",
  "0F7E TIBETAN SIGN:RJES SU NGA RO|RNAM BCAD",
  "0F80 TIBETAN VOWEL SIGN REVERSED:I|II",
  "0F82 TIBETAN SIGN:NYI ZLA NAA DA|SNA LDAN",
  "0F84 TIBETAN:MARK HALANTA|MARK PALUTA|SIGN LCI RTAGS|SIGN YANG RTAGS",
  "0F88 TIBETAN SIGN:LCE TSA CAN|MCHU CAN|GRU CAN RGYINGS|GRU MED RGYINGS|INVERTED MCHU CAN",
  "0F8D TIBETAN SUBJOINED SIGN:LCE TSA CAN|MCHU CAN|INVERTED MCHU CAN",
  "0F90 TIBETAN SUBJOINED LETTER:KA|KHA|GA|GHA|NGA|CA|CHA|JA",
  "0F99 TIBETAN SUBJOINED LETTER:NYA|TTA|TTHA|DDA|DDHA|NNA|TA|THA|DA|DHA|NA|PA|PHA|BA|BHA",
  "0FA8 TIBETAN SUBJOINED LETTER:MA|TSA|TSHA|DZA|DZHA|WA|ZHA|ZA|-A|YA|RA|LA|SHA|SSA|SA|HA|A|KSSA",
  "0FBA TIBETAN SUBJOINED LETTER FIXED-FORM:WA|YA|RA",
  "0FBE TIBETAN KU RU:KHA|KHA BZHI MIG CAN",
  "0FC0 TIBETAN CANTILLATION SIGN:HEAVY BEAT|LIGHT BEAT|CANG TE-U|SBUB -CHAL",
  "0FC4 TIBETAN SYMBOL:DRIL BU|RDO RJE|PADMA GDAN|RDO RJE RGYA GRAM|PHUR PA|NOR BU",
  "0FCA TIBETAN SYMBOL NOR BU:NYIS -KHYIL|GSUM -KHYIL|BZHI -KHYIL",
  "0FCE TIBETAN SIGN RDEL NAG:RDEL DKAR|GSUM",
  "0FD0 TIBETAN MARK:BSKA- SHOG GI MGO RGYAN|MNYAM YIG GI MGO RGYAN|NYIS TSHEG",
  "0FD3 TIBETAN MARK:INITIAL BRDA RNYING YIG MGO MDUN MA|CLOSING BRDA RNYING YIG MGO SGAB MA",
  "0FD5 :RIGHT-FACING SVASTI SIGN|LEFT-FACING SVASTI SIGN|RIGHT-FACING SVASTI SIGN WITH DOTS",
  "0FD8 LEFT-FACING SVASTI SIGN WITH:DOTS",
  "0FD9 TIBETAN MARK:LEADING MCHAN RTAGS|TRAILING MCHAN RTAGS",
  "1000 MYANMAR LETTER:KA",
  "1001 MYANMAR LETTER:KHA|GA|GHA|NGA|CA|CHA|JA|JHA|NYA|NNYA|TTA|TTHA|DDA|DDHA|NNA|TA|THA|DA|DHA",
  "1014 MYANMAR LETTER:NA|PA|PHA|BA|BHA|MA|YA|RA|LA|WA|SA|HA|LLA|A|SHAN A|I|II|U|UU|E|MON E|O|AU",
  "102B MYANMAR VOWEL SIGN:TALL AA|AA|I|II|U|UU|E|AI|MON II|MON O|E ABOVE",
  "1036 MYANMAR SIGN:ANUSVARA|DOT BELOW|VISARGA|VIRAMA|ASAT",
  "103B MYANMAR CONSONANT SIGN MEDIAL:YA|RA|WA|HA",
  "103F MYANMAR LETTER GREAT:SA",
  "1040 MYANMAR DIGIT:ZERO|ONE|TWO|THREE|FOUR|FIVE|SIX|SEVEN|EIGHT|NINE",
  "104A MYANMAR SIGN:LITTLE SECTION|SECTION",
  "104C MYANMAR SYMBOL:LOCATIVE|COMPLETED|AFOREMENTIONED|GENITIVE",
  "1050 MYANMAR LETTER:SHA|SSA",
  "1052 MYANMAR LETTER VOCALIC:R|RR|L|LL",
  "1056 MYANMAR VOWEL SIGN VOCALIC:R|RR|L|LL",
  "105A MYANMAR LETTER MON:NGA|JHA|BBA|BBE",
  "105E MYANMAR CONSONANT SIGN MON MEDIAL:NA|MA|LA",
  "1061 MYANMAR:LETTER SGAW KAREN SHA|VOWEL SIGN SGAW KAREN EU",
  "1063 MYANMAR TONE MARK SGAW KAREN:HATHI|KE PHO",
  "1065 MYANMAR LETTER WESTERN PWO KAREN:THA|PWA",
  "1067 MYANMAR VOWEL SIGN WESTERN PWO KAREN:EU|UE",
  "1069 MYANMAR SIGN WESTERN PWO KAREN:TONE-1|TONE-2|TONE-3|TONE-4|TONE-5",
  "106E MYANMAR LETTER EASTERN PWO KAREN:NNA|YWA|GHWA",
  "1071 MYANMAR VOWEL SIGN:GEBA KAREN I|KAYAH OE|KAYAH U|KAYAH EE",
  "1075 MYANMAR LETTER SHAN:KA|KHA|GA|CA|ZA|NYA|DA|NA|PHA|FA|BA|THA|HA",
  "1082 MYANMAR CONSONANT SIGN SHAN MEDIAL:WA",
  "1083 MYANMAR VOWEL SIGN SHAN:AA|E|E ABOVE|FINAL Y",
  "1087 MYANMAR SIGN SHAN:TONE-2|TONE-3|TONE-5|TONE-6",
  "108B MYANMAR SIGN SHAN COUNCIL:TONE-2|TONE-3|EMPHATIC TONE",
  "108E MYANMAR:LETTER RUMAI PALAUNG FA|SIGN RUMAI PALAUNG TONE-5",
  "1090 MYANMAR SHAN DIGIT:ZERO|ONE|TWO|THREE|FOUR|FIVE|SIX|SEVEN|EIGHT|NINE",
  "109A MYANMAR SIGN KHAMTI:TONE-1|TONE-3",
  "109C MYANMAR VOWEL SIGN AITON:A|AI",
  "109E MYANMAR SYMBOL SHAN:ONE|EXCLAMATION",
  "10A0 GEORGIAN CAPITAL LETTER:AN|BAN|GAN|DON|EN|VIN",
  "10A6 GEORGIAN CAPITAL LETTER:ZEN|TAN|IN|KAN|LAS|MAN|NAR|ON|PAR|ZHAR|RAE|SAN|TAR|UN|PHAR|KHAR",
  "10B6 GEORGIAN CAPITAL LETTER:GHAN|QAR|SHIN|CHIN|CAN|JIL|CIL|CHAR|XAN|JHAN|HAE|HE|HIE|WE|HAR|HOE",
  "10C7 GEORGIAN CAPITAL LETTER:YN",
  "10CD GEORGIAN CAPITAL LETTER:AEN",
  "10D0 GEORGIAN LETTER:AN|BAN|GAN|DON|EN|VIN|ZEN|TAN",
  "10D8 GEORGIAN LETTER:IN|KAN|LAS|MAN|NAR|ON|PAR|ZHAR|RAE|SAN|TAR|UN|PHAR|KHAR|GHAN|QAR|SHIN|CHIN",
  "10EA GEORGIAN LETTER:CAN|JIL|CIL|CHAR|XAN|JHAN|HAE|HE|HIE|WE|HAR|HOE|FI|YN|ELIFI|TURNED GAN|AIN",
  "10FB :GEORGIAN PARAGRAPH SEPARATOR|MODIFIER LETTER GEORGIAN NAR",
  "10FD GEORGIAN LETTER:AEN|HARD SIGN|LABIAL SIGN",
  "1100 HANGUL CHOSEONG:KIYEOK|SSANGKIYEOK",
  "1102 HANGUL CHOSEONG:NIEUN|TIKEUT|SSANGTIKEUT|RIEUL|MIEUM|PIEUP|SSANGPIEUP|SIOS|SSANGSIOS",
  "110B HANGUL CHOSEONG:IEUNG|CIEUC|SSANGCIEUC|CHIEUCH|KHIEUKH|THIEUTH|PHIEUPH|HIEUH|NIEUN-KIYEOK",
  "1114 HANGUL CHOSEONG:SSANGNIEUN|NIEUN-TIKEUT|NIEUN-PIEUP|TIKEUT-KIYEOK|RIEUL-NIEUN|SSANGRIEUL",
  "111A HANGUL CHOSEONG:RIEUL-HIEUH|KAPYEOUNRIEUL|MIEUM-PIEUP|KAPYEOUNMIEUM|PIEUP-KIYEOK",
  "111F HANGUL CHOSEONG:PIEUP-NIEUN|PIEUP-TIKEUT|PIEUP-SIOS|PIEUP-SIOS-KIYEOK|PIEUP-SIOS-TIKEUT",
  "1124 HANGUL CHOSEONG:PIEUP-SIOS-PIEUP|PIEUP-SSANGSIOS|PIEUP-SIOS-CIEUC|PIEUP-CIEUC",
  "1128 HANGUL CHOSEONG:PIEUP-CHIEUCH|PIEUP-THIEUTH|PIEUP-PHIEUPH|KAPYEOUNPIEUP|KAPYEOUNSSANGPIEUP",
  "112D HANGUL CHOSEONG:SIOS-KIYEOK|SIOS-NIEUN|SIOS-TIKEUT|SIOS-RIEUL|SIOS-MIEUM|SIOS-PIEUP",
  "1133 HANGUL CHOSEONG:SIOS-PIEUP-KIYEOK|SIOS-SSANGSIOS|SIOS-IEUNG|SIOS-CIEUC|SIOS-CHIEUCH",
  "1138 HANGUL CHOSEONG:SIOS-KHIEUKH|SIOS-THIEUTH|SIOS-PHIEUPH|SIOS-HIEUH|CHITUEUMSIOS",
  "113D HANGUL CHOSEONG:CHITUEUMSSANGSIOS|CEONGCHIEUMSIOS|CEONGCHIEUMSSANGSIOS|PANSIOS",
  "1141 HANGUL CHOSEONG:IEUNG-KIYEOK|IEUNG-TIKEUT|IEUNG-MIEUM|IEUNG-PIEUP|IEUNG-SIOS|IEUNG-PANSIOS",
  "1147 HANGUL CHOSEONG:SSANGIEUNG|IEUNG-CIEUC|IEUNG-CHIEUCH|IEUNG-THIEUTH|IEUNG-PHIEUPH",
  "114C HANGUL CHOSEONG:YESIEUNG|CIEUC-IEUNG|CHITUEUMCIEUC|CHITUEUMSSANGCIEUC|CEONGCHIEUMCIEUC",
  "1151 HANGUL CHOSEONG:CEONGCHIEUMSSANGCIEUC|CHIEUCH-KHIEUKH|CHIEUCH-HIEUH|CHITUEUMCHIEUCH",
  "1155 HANGUL CHOSEONG:CEONGCHIEUMCHIEUCH|PHIEUPH-PIEUP|KAPYEOUNPHIEUPH|SSANGHIEUH|YEORINHIEUH",
  "115A HANGUL CHOSEONG:KIYEOK-TIKEUT|NIEUN-SIOS|NIEUN-CIEUC|NIEUN-HIEUH|TIKEUT-RIEUL|FILLER",
  "1160 HANGUL JUNGSEONG:FILLER|A|AE|YA|YAE|EO|E|YEO|YE|O|WA|WAE|OE|YO|U|WEO|WE|WI|YU",
  "1173 HANGUL JUNGSEONG:EU|YI|I|A-O|A-U|YA-O|YA-YO|EO-O|EO-U|EO-EU|YEO-O|YEO-U|O-EO|O-E|O-YE|O-O",
  "1183 HANGUL JUNGSEONG:O-U|YO-YA|YO-YAE|YO-YEO|YO-O|YO-I|U-A|U-AE|U-EO-EU|U-YE|U-U|YU-A|YU-EO",
  "1190 HANGUL JUNGSEONG:YU-E|YU-YEO|YU-YE|YU-U|YU-I|EU-U|EU-EU|YI-U|I-A|I-YA|I-O|I-U|I-EU|I-ARAEA",
  "119E HANGUL JUNGSEONG:ARAEA|ARAEA-EO|ARAEA-U|ARAEA-I|SSANGARAEA|A-EU|YA-U|YEO-YA|O-YA|O-YAE",
  "11A8 HANGUL JONGSEONG:KIYEOK|SSANGKIYEOK",
  "11AA HANGUL JONGSEONG:KIYEOK-SIOS|NIEUN|NIEUN-CIEUC|NIEUN-HIEUH|TIKEUT|RIEUL|RIEUL-KIYEOK",
  "11B1 HANGUL JONGSEONG:RIEUL-MIEUM|RIEUL-PIEUP|RIEUL-SIOS|RIEUL-THIEUTH|RIEUL-PHIEUPH",
  "11B6 HANGUL JONGSEONG:RIEUL-HIEUH|MIEUM|PIEUP|PIEUP-SIOS|SIOS|SSANGSIOS|IEUNG|CIEUC",
  "11BE HANGUL JONGSEONG:CHIEUCH|KHIEUKH|THIEUTH|PHIEUPH|HIEUH|KIYEOK-RIEUL|KIYEOK-SIOS-KIYEOK",
  "11C5 HANGUL JONGSEONG:NIEUN-KIYEOK|NIEUN-TIKEUT|NIEUN-SIOS|NIEUN-PANSIOS|NIEUN-THIEUTH",
  "11CA HANGUL JONGSEONG:TIKEUT-KIYEOK|TIKEUT-RIEUL|RIEUL-KIYEOK-SIOS|RIEUL-NIEUN|RIEUL-TIKEUT",
  "11CF HANGUL JONGSEONG:RIEUL-TIKEUT-HIEUH|SSANGRIEUL|RIEUL-MIEUM-KIYEOK|RIEUL-MIEUM-SIOS",
  "11D3 HANGUL JONGSEONG:RIEUL-PIEUP-SIOS|RIEUL-PIEUP-HIEUH|RIEUL-KAPYEOUNPIEUP|RIEUL-SSANGSIOS",
  "11D7 HANGUL JONGSEONG:RIEUL-PANSIOS|RIEUL-KHIEUKH|RIEUL-YEORINHIEUH|MIEUM-KIYEOK",
  "11DB HANGUL JONGSEONG:MIEUM-RIEUL|MIEUM-PIEUP|MIEUM-SIOS|MIEUM-SSANGSIOS|MIEUM-PANSIOS",
  "11E0 HANGUL JONGSEONG:MIEUM-CHIEUCH|MIEUM-HIEUH|KAPYEOUNMIEUM|PIEUP-RIEUL|PIEUP-PHIEUPH",
  "11E5 HANGUL JONGSEONG:PIEUP-HIEUH|KAPYEOUNPIEUP|SIOS-KIYEOK|SIOS-TIKEUT|SIOS-RIEUL|SIOS-PIEUP",
  "11EB HANGUL JONGSEONG:PANSIOS|IEUNG-KIYEOK|IEUNG-SSANGKIYEOK|SSANGIEUNG|IEUNG-KHIEUKH",
  "11F0 HANGUL JONGSEONG:YESIEUNG|YESIEUNG-SIOS|YESIEUNG-PANSIOS|PHIEUPH-PIEUP|KAPYEOUNPHIEUPH",
  "11F5 HANGUL JONGSEONG:HIEUH-NIEUN|HIEUH-RIEUL|HIEUH-MIEUM|HIEUH-PIEUP|YEORINHIEUH|KIYEOK-NIEUN",
  "11FB HANGUL JONGSEONG:KIYEOK-PIEUP|KIYEOK-CHIEUCH|KIYEOK-KHIEUKH|KIYEOK-HIEUH|SSANGNIEUN",
  "1200 ETHIOPIC SYLLABLE:HA|HU|HI|HAA|HEE|HE|HO|HOA|LA|LU|LI|LAA|LEE|LE|LO|LWA|HHA",
  "1211 ETHIOPIC SYLLABLE:HHU|HHI|HHAA|HHEE|HHE|HHO|HHWA|MA|MU|MI|MAA|MEE|ME|MO|MWA|SZA|SZU|SZI",
  "1223 ETHIOPIC SYLLABLE:SZAA|SZEE|SZE|SZO|SZWA|RA|RU|RI|RAA|REE|RE|RO|RWA|SA|SU|SI|SAA|SEE|SE",
  "1236 ETHIOPIC SYLLABLE:SO|SWA|SHA|SHU|SHI|SHAA|SHEE|SHE|SHO|SHWA|QA|QU|QI|QAA|QEE|QE|QO|QOA|QWA",
  "124A ETHIOPIC SYLLABLE:QWI|QWAA|QWEE|QWE",
  "1250 ETHIOPIC SYLLABLE:QHA|QHU|QHI|QHAA|QHEE|QHE|QHO",
  "1258 ETHIOPIC SYLLABLE:QHWA",
  "125A ETHIOPIC SYLLABLE:QHWI|QHWAA|QHWEE|QHWE",
  "1260 ETHIOPIC SYLLABLE:BA|BU|BI|BAA|BEE|BE|BO|BWA|VA|VU|VI|VAA|VEE|VE|VO|VWA|TA|TU|TI|TAA",
  "1274 ETHIOPIC SYLLABLE:TEE|TE|TO|TWA|CA|CU|CI|CAA|CEE|CE|CO|CWA|XA|XU|XI|XAA|XEE|XE|XO|XOA|XWA",
  "128A ETHIOPIC SYLLABLE:XWI|XWAA|XWEE|XWE",
  "1290 ETHIOPIC SYLLABLE:NA|NU|NI|NAA|NEE|NE|NO|NWA|NYA|NYU|NYI|NYAA|NYEE|NYE|NYO|NYWA",
  "12A0 ETHIOPIC SYLLABLE GLOTTAL:A|U|I|AA|EE|E|O|WA",
  "12A8 ETHIOPIC SYLLABLE:KA|KU|KI|KAA|KEE|KE|KO|KOA|KWA",
  "12B2 ETHIOPIC SYLLABLE:KWI|KWAA|KWEE|KWE",
  "12B8 ETHIOPIC SYLLABLE:KXA|KXU|KXI|KXAA|KXEE|KXE|KXO",
  "12C0 ETHIOPIC SYLLABLE:KXWA",
  "12C2 ETHIOPIC SYLLABLE:KXWI|KXWAA|KXWEE|KXWE",
  "12C8 ETHIOPIC SYLLABLE:WA|WU|WI|WAA|WEE|WE|WO|WOA",
  "12D0 ETHIOPIC SYLLABLE PHARYNGEAL:A|U|I|AA|EE|E|O",
  "12D8 ETHIOPIC SYLLABLE:ZA|ZU|ZI|ZAA|ZEE|ZE|ZO|ZWA|ZHA|ZHU|ZHI|ZHAA|ZHEE|ZHE|ZHO|ZHWA|YA",
  "12E9 ETHIOPIC SYLLABLE:YU|YI|YAA|YEE|YE|YO|YOA|DA|DU|DI|DAA|DEE|DE|DO|DWA|DDA|DDU|DDI|DDAA|DDEE",
  "12FD ETHIOPIC SYLLABLE:DDE|DDO|DDWA|JA|JU|JI|JAA|JEE|JE|JO|JWA|GA|GU|GI|GAA|GEE|GE|GO|GOA|GWA",
  "1312 ETHIOPIC SYLLABLE:GWI|GWAA|GWEE|GWE",
  "1318 ETHIOPIC SYLLABLE:GGA|GGU|GGI|GGAA|GGEE|GGE|GGO|GGWAA|THA|THU|THI|THAA|THEE|THE|THO",
  "1327 ETHIOPIC SYLLABLE:THWA|CHA|CHU|CHI|CHAA|CHEE|CHE|CHO|CHWA|PHA|PHU|PHI|PHAA|PHEE|PHE|PHO",
  "1337 ETHIOPIC SYLLABLE:PHWA|TSA|TSU|TSI|TSAA|TSEE|TSE|TSO|TSWA|TZA|TZU|TZI|TZAA|TZEE|TZE|TZO",
  "1347 ETHIOPIC SYLLABLE:TZOA|FA|FU|FI|FAA|FEE|FE|FO|FWA|PA|PU|PI|PAA|PEE|PE|PO|PWA|RYA|MYA|FYA",
  "135D ETHIOPIC COMBINING:GEMINATION AND VOWEL LENGTH MARK|VOWEL LENGTH MARK|GEMINATION MARK",
  "1360 ETHIOPIC:SECTION MARK|WORDSPACE",
  "1362 ETHIOPIC:FULL STOP|COMMA|SEMICOLON|COLON|PREFACE COLON|QUESTION MARK|PARAGRAPH SEPARATOR",
  "1369 ETHIOPIC DIGIT:ONE|TWO|THREE|FOUR|FIVE|SIX|SEVEN|EIGHT|NINE",
  "1372 ETHIOPIC NUMBER:TEN",
  "1373 ETHIOPIC NUMBER:TWENTY|THIRTY|FORTY|FIFTY|SIXTY|SEVENTY|EIGHTY|NINETY|HUNDRED|TEN THOUSAND",
  "1380 ETHIOPIC SYLLABLE:SEBATBEIT MWA|MWI|MWEE|MWE|SEBATBEIT BWA",
  "1385 ETHIOPIC SYLLABLE:BWI|BWEE|BWE|SEBATBEIT FWA|FWI|FWEE|FWE|SEBATBEIT PWA|PWI|PWEE|PWE",
  "1390 ETHIOPIC TONAL MARK:YIZET",
  "1391 ETHIOPIC TONAL MARK:DERET|RIKRIK|SHORT RIKRIK|DIFAT|KENAT|CHIRET|HIDET|DERET-HIDET|KURT",
  "13A0 CHEROKEE LETTER:A|E|I|O|U|V|GA|KA|GE|GI|GO|GU|GV|HA|HE|HI|HO|HU",
  "13B2 CHEROKEE LETTER:HV|LA|LE|LI|LO|LU|LV|MA|ME|MI|MO|MU|NA|HNA|NAH|NE|NI|NO|NU|NV|QUA|QUE|QUI",
  "13C9 CHEROKEE LETTER:QUO|QUU|QUV|SA|S|SE|SI|SO|SU|SV|DA|TA|DE|TE|DI|TI|DO|DU|DV|DLA|TLA|TLE|TLI",
  "13E0 CHEROKEE LETTER:TLO|TLU|TLV|TSA|TSE|TSI|TSO|TSU|TSV|WA|WE|WI|WO|WU|WV|YA|YE|YI|YO|YU|YV|MV",
  "13F8 CHEROKEE SMALL LETTER:YE|YI|YO|YU|YV|MV",
  "1400 CANADIAN SYLLABICS:HYPHEN|E|AAI|I|II|O",
  "1406 CANADIAN SYLLABICS:OO|Y-CREE OO|CARRIER EE|CARRIER I|A|AA|WE|WEST-CREE WE|WI|WEST-CREE WI",
  "1410 CANADIAN SYLLABICS:WII|WEST-CREE WII|WO|WEST-CREE WO|WOO|WEST-CREE WOO|NASKAPI WOO",
  "1417 CANADIAN SYLLABICS:WA|WEST-CREE WA|WAA|WEST-CREE WAA|NASKAPI WAA|AI|Y-CREE W|GLOTTAL STOP",
  "141F CANADIAN SYLLABICS FINAL:ACUTE|GRAVE|BOTTOM HALF RING|TOP HALF RING|RIGHT HALF RING|RING",
  "1425 CANADIAN SYLLABICS FINAL DOUBLE:ACUTE|SHORT VERTICAL STROKES",
  "1427 CANADIAN SYLLABICS FINAL:MIDDLE DOT|SHORT HORIZONTAL STROKE|PLUS|DOWN TACK",
  "142B CANADIAN SYLLABICS:EN|IN|ON|AN|PE|PAAI|PI|PII|PO|POO|Y-CREE POO",
  "1436 CANADIAN SYLLABICS:CARRIER HEE|CARRIER HI|PA|PAA|PWE|WEST-CREE PWE|PWI|WEST-CREE PWI|PWII",
  "143F CANADIAN SYLLABICS:WEST-CREE PWII|PWO|WEST-CREE PWO|PWOO|WEST-CREE PWOO|PWA|WEST-CREE PWA",
  "1446 CANADIAN SYLLABICS:PWAA|WEST-CREE PWAA|Y-CREE PWAA|P|WEST-CREE P|CARRIER H|TE|TAAI|TI",
  "144F CANADIAN SYLLABICS:TII|TO|TOO|Y-CREE TOO|CARRIER DEE|CARRIER DI|TA|TAA|TWE|WEST-CREE TWE",
  "1459 CANADIAN SYLLABICS:TWI|WEST-CREE TWI|TWII|WEST-CREE TWII|TWO|WEST-CREE TWO|TWOO",
  "1460 CANADIAN SYLLABICS:WEST-CREE TWOO|TWA|WEST-CREE TWA|TWAA|WEST-CREE TWAA|NASKAPI TWAA|T|TTE",
  "1468 CANADIAN SYLLABICS:TTI|TTO|TTA|KE|KAAI|KI|KII|KO|KOO|Y-CREE KOO|KA|KAA|KWE|WEST-CREE KWE",
  "1476 CANADIAN SYLLABICS:KWI|WEST-CREE KWI|KWII|WEST-CREE KWII|KWO|WEST-CREE KWO|KWOO",
  "147D CANADIAN SYLLABICS:WEST-CREE KWOO|KWA|WEST-CREE KWA|KWAA|WEST-CREE KWAA|NASKAPI KWAA|K|KW",
  "1485 CANADIAN SYLLABICS SOUTH-SLAVEY:KEH|KIH|KOH|KAH",
  "1489 CANADIAN SYLLABICS:CE|CAAI|CI|CII|CO|COO|Y-CREE COO",
  "1490 CANADIAN SYLLABICS:CA|CAA|CWE|WEST-CREE CWE|CWI|WEST-CREE CWI|CWII|WEST-CREE CWII|CWO",
  "1499 CANADIAN SYLLABICS:WEST-CREE CWO|CWOO|WEST-CREE CWOO|CWA|WEST-CREE CWA|CWAA|WEST-CREE CWAA",
  "14A0 CANADIAN SYLLABICS:NASKAPI CWAA|C|SAYISI TH|ME|MAAI|MI|MII|MO|MOO|Y-CREE MOO|MA|MAA|MWE",
  "14AD CANADIAN SYLLABICS:WEST-CREE MWE|MWI|WEST-CREE MWI|MWII|WEST-CREE MWII|MWO|WEST-CREE MWO",
  "14B4 CANADIAN SYLLABICS:MWOO|WEST-CREE MWOO|MWA|WEST-CREE MWA|MWAA|WEST-CREE MWAA|NASKAPI MWAA",
  "14BB CANADIAN SYLLABICS:M|WEST-CREE M|MH|ATHAPASCAN M|SAYISI M|NE|NAAI|NI|NII|NO|NOO|Y-CREE NOO",
  "14C7 CANADIAN SYLLABICS:NA|NAA|NWE|WEST-CREE NWE|NWA|WEST-CREE NWA|NWAA|WEST-CREE NWAA",
  "14CF CANADIAN SYLLABICS:NASKAPI NWAA|N|CARRIER NG|NH|LE|LAAI|LI|LII|LO|LOO|Y-CREE LOO",
  "14DA CANADIAN SYLLABICS:LA|LAA|LWE|WEST-CREE LWE|LWI|WEST-CREE LWI|LWII|WEST-CREE LWII",
  "14E2 CANADIAN SYLLABICS:LWO|WEST-CREE LWO|LWOO|WEST-CREE LWOO|LWA|WEST-CREE LWA|LWAA",
  "14E9 CANADIAN SYLLABICS:WEST-CREE LWAA|L|WEST-CREE L|MEDIAL L|SE|SAAI|SI|SII|SO|SOO|Y-CREE SOO",
  "14F4 CANADIAN SYLLABICS:SA|SAA|SWE|WEST-CREE SWE|SWI|WEST-CREE SWI|SWII|WEST-CREE SWII",
  "14FC CANADIAN SYLLABICS:SWO|WEST-CREE SWO|SWOO|WEST-CREE SWOO|SWA|WEST-CREE SWA|SWAA",
  "1503 CANADIAN SYLLABICS:WEST-CREE SWAA|NASKAPI SWAA|S|ATHAPASCAN S|SW|BLACKFOOT S|MOOSE-CREE SK",
  "150A CANADIAN SYLLABICS NASKAPI:SKW|S-W|SPWA|STWA|SKWA|SCWA",
  "1510 CANADIAN SYLLABICS:SHE|SHI|SHII|SHO|SHOO",
  "1515 CANADIAN SYLLABICS:SHA|SHAA|SHWE|WEST-CREE SHWE|SHWI|WEST-CREE SHWI|SHWII|WEST-CREE SHWII",
  "151D CANADIAN SYLLABICS:SHWO|WEST-CREE SHWO|SHWOO|WEST-CREE SHWOO|SHWA|WEST-CREE SHWA",
  "1523 CANADIAN SYLLABICS:SHWAA|WEST-CREE SHWAA|SH|YE|YAAI|YI|YII|YO|YOO|Y-CREE YOO|YA|YAA|YWE",
  "1530 CANADIAN SYLLABICS:WEST-CREE YWE|YWI|WEST-CREE YWI|YWII|WEST-CREE YWII|YWO|WEST-CREE YWO",
  "1537 CANADIAN SYLLABICS:YWOO|WEST-CREE YWOO|YWA|WEST-CREE YWA|YWAA|WEST-CREE YWAA|NASKAPI YWAA",
  "153E CANADIAN SYLLABICS:Y|BIBLE-CREE Y|WEST-CREE Y|SAYISI YI|RE|R-CREE RE|WEST-CREE LE",
  "1545 CANADIAN SYLLABICS:RAAI|RI|RII|RO|ROO|WEST-CREE LO|RA|RAA|WEST-CREE LA|RWAA|WEST-CREE RWAA",
  "1550 CANADIAN SYLLABICS:R|WEST-CREE R|MEDIAL R|FE|FAAI|FI|FII|FO|FOO|FA|FAA|FWAA|WEST-CREE FWAA",
  "155D CANADIAN SYLLABICS:F|THE|N-CREE THE|THI|N-CREE THI|THII|N-CREE THII|THO|THOO|THA",
  "1567 CANADIAN SYLLABICS:THAA|THWAA|WEST-CREE THWAA|TH|TTHE|TTHI|TTHO|TTHA|TTH|TYE|TYI|TYO|TYA",
  "1574 CANADIAN SYLLABICS NUNAVIK:HE|HI|HII|HO|HOO|HA|HAA|H",
  "157C CANADIAN SYLLABICS:NUNAVUT H|HK|QAAI|QI|QII|QO|QOO|QA|QAA|Q|TLHE|TLHI|TLHO|TLHA",
  "158A CANADIAN SYLLABICS WEST-CREE:RE|RI|RO|RA",
  "158E CANADIAN SYLLABICS:NGAAI|NGI|NGII|NGO|NGOO|NGA|NGAA|NG|NNG",
  "1597 CANADIAN SYLLABICS SAYISI:SHE|SHI|SHO|SHA",
  "159B CANADIAN SYLLABICS WOODS-CREE:THE|THI|THO|THA|TH",
  "15A0 CANADIAN SYLLABICS:LHI|LHII|LHO|LHOO|LHA|LHAA|LH",
  "15A7 CANADIAN SYLLABICS TH-CREE:THE|THI|THII|THO|THOO|THA|THAA|TH",
  "15AF CANADIAN SYLLABICS AIVILIK:B",
  "15B0 CANADIAN SYLLABICS BLACKFOOT:E|I|O|A|WE|WI|WO|WA|NE|NI|NO|NA|KE|KI|KO|KA",
  "15C0 CANADIAN SYLLABICS SAYISI:HE|HI|HO|HA",
  "15C4 CANADIAN SYLLABICS CARRIER:GHU|GHO|GHE|GHEE|GHI|GHA|RU|RO|RE|REE|RI",
  "15CF CANADIAN SYLLABICS CARRIER:RA|WU|WO|WE|WEE|WI|WA|HWU|HWO|HWE|HWEE|HWI|HWA|THU|THO|THE|THEE",
  "15E0 CANADIAN SYLLABICS CARRIER:THI|THA|TTU|TTO|TTE|TTEE|TTI|TTA|PU|PO|PE|PEE|PI|PA|P|GU|GO",
  "15F1 CANADIAN SYLLABICS CARRIER:GE|GEE|GI|GA|KHU|KHO|KHE|KHEE|KHI|KHA|KKU|KKO|KKE|KKEE|KKI|KKA",
  "1601 CANADIAN SYLLABICS CARRIER:KK|NU|NO|NE|NEE|NI|NA|MU|MO|ME|MEE|MI|MA|YU|YO|YE|YEE|YI|YA|JU",
  "1615 CANADIAN SYLLABICS:SAYISI JU|CARRIER JO|CARRIER JE|CARRIER JEE|CARRIER JI|SAYISI JI",
  "161B CANADIAN SYLLABICS CARRIER:JA|JJU|JJO|JJE|JJEE",
  "1620 CANADIAN SYLLABICS CARRIER:JJI|JJA|LU|LO|LE|LEE|LI|LA|DLU|DLO|DLE|DLEE|DLI|DLA|LHU|LHO|LHE",
  "1631 CANADIAN SYLLABICS CARRIER:LHEE|LHI|LHA|TLHU|TLHO|TLHE|TLHEE|TLHI|TLHA|TLU|TLO|TLE|TLEE",
  "163E CANADIAN SYLLABICS CARRIER:TLI|TLA|ZU|ZO|ZE|ZEE|ZI|ZA|Z|INITIAL Z|DZU|DZO|DZE|DZEE|DZI|DZA",
  "164E CANADIAN SYLLABICS CARRIER:SU|SO|SE|SEE|SI|SA|SHU|SHO|SHE|SHEE|SHI|SHA|SH|TSU|TSO|TSE|TSEE",
  "165F CANADIAN SYLLABICS CARRIER:TSI|TSA|CHU|CHO|CHE|CHEE|CHI|CHA|TTSU|TTSO|TTSE|TTSEE|TTSI|TTSA",
  "166D CANADIAN SYLLABICS:CHI SIGN|FULL STOP|QAI|NGAI|NNGI|NNGII|NNGO|NNGOO|NNGA|NNGAA",
  "1677 CANADIAN SYLLABICS WOODS-CREE:THWEE|THWI|THWII|THWO|THWOO|THWA|THWAA|FINAL TH",
  "167F :CANADIAN SYLLABICS BLACKFOOT W|OGHAM SPACE MARK",
  "1681 OGHAM LETTER:BEITH|LUIS|FEARN|SAIL|NION|UATH|DAIR|TINNE|COLL|CEIRT|MUIN|GORT|NGEADAL",
  "168E OGHAM LETTER:STRAIF|RUIS|AILM|ONN|UR|EADHADH|IODHADH|EABHADH|OR|UILLEANN|IFIN|EAMHANCHOLL",
  "169A OGHAM:LETTER PEITH|FEATHER MARK|REVERSED FEATHER MARK",
  "16A0 RUNIC LETTER:FEHU FEOH FE F|V|URUZ UR U",
  "16A3 RUNIC LETTER:YR|Y|W|THURISAZ THURS THORN|ETH|ANSUZ A|OS O|AC A|AESC|LONG-BRANCH-OSS O",
  "16AD RUNIC LETTER:SHORT-TWIG-OSS O|O|OE|ON|RAIDO RAD REID R|KAUNA|CEN|KAUN K|G|ENG|GEBO GYFU G",
  "16B8 RUNIC LETTER:GAR|WUNJO WYNN W|HAGLAZ H|HAEGL H|LONG-BRANCH-HAGALL H|SHORT-TWIG-HAGALL H",
  "16BE RUNIC LETTER:NAUDIZ NYD NAUD N|SHORT-TWIG-NAUD N|DOTTED-N|ISAZ IS ISS I|E|JERAN J",
  "16C4 RUNIC LETTER:GER|LONG-BRANCH-AR AE|SHORT-TWIG-AR A|IWAZ EOH|PERTHO PEORTH P|ALGIZ EOLHX",
  "16CA RUNIC LETTER:SOWILO S|SIGEL LONG-BRANCH-SOL S|SHORT-TWIG-SOL S|C|Z|TIWAZ TIR TYR T",
  "16D0 RUNIC LETTER:SHORT-TWIG-TYR T|D|BERKANAN BEORC BJARKAN B|SHORT-TWIG-BJARKAN B",
  "16D4 RUNIC LETTER:DOTTED-P|OPEN-P|EHWAZ EH E|MANNAZ MAN M|LONG-BRANCH-MADR M|SHORT-TWIG-MADR M",
  "16DA RUNIC LETTER:LAUKAZ LAGU LOGR L|DOTTED-L|INGWAZ|ING|DAGAZ DAEG D|OTHALAN ETHEL O",
  "16E0 RUNIC LETTER:EAR|IOR|CWEORTH|CALC|CEALC|STAN|LONG-BRANCH-YR|SHORT-TWIG-YR|ICELANDIC-YR|Q|X",
  "16EB RUNIC SINGLE:PUNCTUATION",
  "16EC RUNIC:MULTIPLE PUNCTUATION|CROSS PUNCTUATION|ARLAUG SYMBOL|TVIMADUR SYMBOL|BELGTHOR SYMBOL",
  "16F1 RUNIC LETTER:K|SH|OO",
  "16F4 RUNIC LETTER FRANKS CASKET:OS|IS|EH|AC|AESC",
  "1700 TAGALOG LETTER:A|I|U|KA|GA|NGA|TA|DA|NA|PA|BA|MA|YA|RA|LA|WA|SA|HA",
  "1712 TAGALOG VOWEL SIGN:I|U",
  "1714 TAGALOG SIGN:VIRAMA|PAMUDPOD",
  "171F TAGALOG LETTER ARCHAIC:RA",
  "1720 HANUNOO LETTER:A|I|U|KA|GA|NGA|TA|DA|NA|PA|BA|MA|YA|RA|LA|WA|SA|HA",
  "1732 HANUNOO:VOWEL SIGN I|VOWEL SIGN U|SIGN PAMUDPOD",
  "1735 PHILIPPINE:SINGLE PUNCTUATION|DOUBLE PUNCTUATION",
  "1740 BUHID LETTER:A|I|U|KA|GA|NGA|TA|DA|NA|PA|BA|MA|YA|RA|LA|WA|SA|HA",
  "1752 BUHID VOWEL SIGN:I|U",
  "1760 TAGBANWA LETTER:A|I|U|KA|GA|NGA|TA|DA|NA|PA|BA|MA|YA",
  "176E TAGBANWA LETTER:LA|WA|SA",
  "1772 TAGBANWA VOWEL SIGN:I|U",
  "1780 KHMER LETTER:KA|KHA|KO|KHO|NGO|CA|CHA|CO|CHO|NYO|DA|TTHA",
  "178C KHMER LETTER:DO|TTHO|NNO|TA|THA|TO|THO|NO|BA|PHA|PO|PHO|MO|YO|RO|LO|VO|SHA|SSO|SA|HA|LA|QA",
  "17A3 KHMER INDEPENDENT VOWEL:QAQ|QAA|QI|QII",
  "17A7 KHMER INDEPENDENT VOWEL:QU|QUK|QUU|QUUV|RY|RYY|LY|LYY|QE|QAI|QOO TYPE ONE|QOO TYPE TWO|QAU",
  "17B4 KHMER VOWEL INHERENT:AQ|AA",
  "17B6 KHMER VOWEL SIGN:AA|I|II|Y|YY|U|UU|UA|OE|YA|IE|E|AE|AI|OO|AU",
  "17C6 KHMER SIGN:NIKAHIT|REAHMUK|YUUKALEAPINTU|MUUSIKATOAN",
  "17CA KHMER SIGN:TRIISAP|BANTOC|ROBAT|TOANDAKHIAT|KAKABAT|AHSDA|SAMYOK SANNYA|VIRIAM|COENG",
  "17D3 KHMER SIGN:BATHAMASAT|KHAN|BARIYOOSAN|CAMNUC PII KUUH|LEK TOO|BEYYAL|PHNAEK MUAN|KOOMUUT",
  "17DB KHMER:CURRENCY SYMBOL RIEL|SIGN AVAKRAHASANYA|SIGN ATTHACAN",
  "17E0 KHMER DIGIT:ZERO|ONE|TWO|THREE|FOUR|FIVE|SIX|SEVEN|EIGHT|NINE",
  "17F0 KHMER SYMBOL LEK ATTAK:SON|MUOY|PII|BEI|BUON|PRAM|PRAM-MUOY|PRAM-PII|PRAM-BEI|PRAM-BUON"]

end Conform.Text.CharacterName
