/-!
# Names of characters

Every character has a name, which is written in capital letters; whoever gives one may write it in
small letters as well. The table holds the names of the Latin, Greek and Cyrillic letters in common
use, of punctuation, currency signs, arrows, mathematical and other symbols and pictographs, and
other names that control and format characters go by.
-/

namespace Conform.Text

/-- Names of consecutive characters, separated by semicolons, under the code point of the first. -/
def nameRuns : List (Nat × String) := [
  (0x20,
    "SPACE;EXCLAMATION MARK;QUOTATION MARK;NUMBER SIGN;DOLLAR SIGN;PERCENT SIGN;AMPERSAND;
     APOSTROPHE;LEFT PARENTHESIS;RIGHT PARENTHESIS;ASTERISK;PLUS SIGN;COMMA;HYPHEN-MINUS;FULL STOP;
     SOLIDUS;DIGIT ZERO;DIGIT ONE;DIGIT TWO;DIGIT THREE;DIGIT FOUR;DIGIT FIVE;DIGIT SIX;
     DIGIT SEVEN;DIGIT EIGHT;DIGIT NINE;COLON;SEMICOLON;LESS-THAN SIGN;EQUALS SIGN;
     GREATER-THAN SIGN;QUESTION MARK;COMMERCIAL AT;LATIN CAPITAL LETTER A;LATIN CAPITAL LETTER B;
     LATIN CAPITAL LETTER C;LATIN CAPITAL LETTER D;LATIN CAPITAL LETTER E;LATIN CAPITAL LETTER F;
     LATIN CAPITAL LETTER G;LATIN CAPITAL LETTER H;LATIN CAPITAL LETTER I;LATIN CAPITAL LETTER J;
     LATIN CAPITAL LETTER K;LATIN CAPITAL LETTER L;LATIN CAPITAL LETTER M;LATIN CAPITAL LETTER N;
     LATIN CAPITAL LETTER O;LATIN CAPITAL LETTER P;LATIN CAPITAL LETTER Q;LATIN CAPITAL LETTER R;
     LATIN CAPITAL LETTER S;LATIN CAPITAL LETTER T;LATIN CAPITAL LETTER U;LATIN CAPITAL LETTER V;
     LATIN CAPITAL LETTER W;LATIN CAPITAL LETTER X;LATIN CAPITAL LETTER Y;LATIN CAPITAL LETTER Z;
     LEFT SQUARE BRACKET;REVERSE SOLIDUS;RIGHT SQUARE BRACKET;CIRCUMFLEX ACCENT;LOW LINE;
     GRAVE ACCENT;LATIN SMALL LETTER A;LATIN SMALL LETTER B;LATIN SMALL LETTER C;
     LATIN SMALL LETTER D;LATIN SMALL LETTER E;LATIN SMALL LETTER F;LATIN SMALL LETTER G;
     LATIN SMALL LETTER H;LATIN SMALL LETTER I;LATIN SMALL LETTER J;LATIN SMALL LETTER K;
     LATIN SMALL LETTER L;LATIN SMALL LETTER M;LATIN SMALL LETTER N;LATIN SMALL LETTER O;
     LATIN SMALL LETTER P;LATIN SMALL LETTER Q;LATIN SMALL LETTER R;LATIN SMALL LETTER S;
     LATIN SMALL LETTER T;LATIN SMALL LETTER U;LATIN SMALL LETTER V;LATIN SMALL LETTER W;
     LATIN SMALL LETTER X;LATIN SMALL LETTER Y;LATIN SMALL LETTER Z;LEFT CURLY BRACKET;
     VERTICAL LINE;RIGHT CURLY BRACKET;TILDE"),
  (0xa0,
    "NO-BREAK SPACE;INVERTED EXCLAMATION MARK;CENT SIGN;POUND SIGN;CURRENCY SIGN;YEN SIGN;
     BROKEN BAR;SECTION SIGN;DIAERESIS;COPYRIGHT SIGN;FEMININE ORDINAL INDICATOR;
     LEFT-POINTING DOUBLE ANGLE QUOTATION MARK;NOT SIGN;SOFT HYPHEN;REGISTERED SIGN;MACRON;
     DEGREE SIGN;PLUS-MINUS SIGN;SUPERSCRIPT TWO;SUPERSCRIPT THREE;ACUTE ACCENT;MICRO SIGN;
     PILCROW SIGN;MIDDLE DOT;CEDILLA;SUPERSCRIPT ONE;MASCULINE ORDINAL INDICATOR;
     RIGHT-POINTING DOUBLE ANGLE QUOTATION MARK;VULGAR FRACTION ONE QUARTER;
     VULGAR FRACTION ONE HALF;VULGAR FRACTION THREE QUARTERS;INVERTED QUESTION MARK;
     LATIN CAPITAL LETTER A WITH GRAVE;LATIN CAPITAL LETTER A WITH ACUTE;
     LATIN CAPITAL LETTER A WITH CIRCUMFLEX;LATIN CAPITAL LETTER A WITH TILDE;
     LATIN CAPITAL LETTER A WITH DIAERESIS;LATIN CAPITAL LETTER A WITH RING ABOVE;
     LATIN CAPITAL LETTER AE;LATIN CAPITAL LETTER C WITH CEDILLA;LATIN CAPITAL LETTER E WITH GRAVE;
     LATIN CAPITAL LETTER E WITH ACUTE;LATIN CAPITAL LETTER E WITH CIRCUMFLEX;
     LATIN CAPITAL LETTER E WITH DIAERESIS;LATIN CAPITAL LETTER I WITH GRAVE;
     LATIN CAPITAL LETTER I WITH ACUTE;LATIN CAPITAL LETTER I WITH CIRCUMFLEX;
     LATIN CAPITAL LETTER I WITH DIAERESIS;LATIN CAPITAL LETTER ETH;
     LATIN CAPITAL LETTER N WITH TILDE;LATIN CAPITAL LETTER O WITH GRAVE;
     LATIN CAPITAL LETTER O WITH ACUTE;LATIN CAPITAL LETTER O WITH CIRCUMFLEX;
     LATIN CAPITAL LETTER O WITH TILDE;LATIN CAPITAL LETTER O WITH DIAERESIS;MULTIPLICATION SIGN;
     LATIN CAPITAL LETTER O WITH STROKE;LATIN CAPITAL LETTER U WITH GRAVE;
     LATIN CAPITAL LETTER U WITH ACUTE;LATIN CAPITAL LETTER U WITH CIRCUMFLEX;
     LATIN CAPITAL LETTER U WITH DIAERESIS;LATIN CAPITAL LETTER Y WITH ACUTE;
     LATIN CAPITAL LETTER THORN;LATIN SMALL LETTER SHARP S;LATIN SMALL LETTER A WITH GRAVE;
     LATIN SMALL LETTER A WITH ACUTE;LATIN SMALL LETTER A WITH CIRCUMFLEX;
     LATIN SMALL LETTER A WITH TILDE;LATIN SMALL LETTER A WITH DIAERESIS;
     LATIN SMALL LETTER A WITH RING ABOVE;LATIN SMALL LETTER AE;LATIN SMALL LETTER C WITH CEDILLA;
     LATIN SMALL LETTER E WITH GRAVE;LATIN SMALL LETTER E WITH ACUTE;
     LATIN SMALL LETTER E WITH CIRCUMFLEX;LATIN SMALL LETTER E WITH DIAERESIS;
     LATIN SMALL LETTER I WITH GRAVE;LATIN SMALL LETTER I WITH ACUTE;
     LATIN SMALL LETTER I WITH CIRCUMFLEX;LATIN SMALL LETTER I WITH DIAERESIS;
     LATIN SMALL LETTER ETH;LATIN SMALL LETTER N WITH TILDE;LATIN SMALL LETTER O WITH GRAVE;
     LATIN SMALL LETTER O WITH ACUTE;LATIN SMALL LETTER O WITH CIRCUMFLEX;
     LATIN SMALL LETTER O WITH TILDE;LATIN SMALL LETTER O WITH DIAERESIS;DIVISION SIGN;
     LATIN SMALL LETTER O WITH STROKE;LATIN SMALL LETTER U WITH GRAVE;
     LATIN SMALL LETTER U WITH ACUTE;LATIN SMALL LETTER U WITH CIRCUMFLEX;
     LATIN SMALL LETTER U WITH DIAERESIS;LATIN SMALL LETTER Y WITH ACUTE;LATIN SMALL LETTER THORN;
     LATIN SMALL LETTER Y WITH DIAERESIS;LATIN CAPITAL LETTER A WITH MACRON;
     LATIN SMALL LETTER A WITH MACRON;LATIN CAPITAL LETTER A WITH BREVE;
     LATIN SMALL LETTER A WITH BREVE;LATIN CAPITAL LETTER A WITH OGONEK;
     LATIN SMALL LETTER A WITH OGONEK;LATIN CAPITAL LETTER C WITH ACUTE;
     LATIN SMALL LETTER C WITH ACUTE;LATIN CAPITAL LETTER C WITH CIRCUMFLEX;
     LATIN SMALL LETTER C WITH CIRCUMFLEX;LATIN CAPITAL LETTER C WITH DOT ABOVE;
     LATIN SMALL LETTER C WITH DOT ABOVE;LATIN CAPITAL LETTER C WITH CARON;
     LATIN SMALL LETTER C WITH CARON;LATIN CAPITAL LETTER D WITH CARON;
     LATIN SMALL LETTER D WITH CARON;LATIN CAPITAL LETTER D WITH STROKE;
     LATIN SMALL LETTER D WITH STROKE;LATIN CAPITAL LETTER E WITH MACRON;
     LATIN SMALL LETTER E WITH MACRON;LATIN CAPITAL LETTER E WITH BREVE;
     LATIN SMALL LETTER E WITH BREVE;LATIN CAPITAL LETTER E WITH DOT ABOVE;
     LATIN SMALL LETTER E WITH DOT ABOVE;LATIN CAPITAL LETTER E WITH OGONEK;
     LATIN SMALL LETTER E WITH OGONEK;LATIN CAPITAL LETTER E WITH CARON;
     LATIN SMALL LETTER E WITH CARON;LATIN CAPITAL LETTER G WITH CIRCUMFLEX;
     LATIN SMALL LETTER G WITH CIRCUMFLEX;LATIN CAPITAL LETTER G WITH BREVE;
     LATIN SMALL LETTER G WITH BREVE;LATIN CAPITAL LETTER G WITH DOT ABOVE;
     LATIN SMALL LETTER G WITH DOT ABOVE;LATIN CAPITAL LETTER G WITH CEDILLA;
     LATIN SMALL LETTER G WITH CEDILLA;LATIN CAPITAL LETTER H WITH CIRCUMFLEX;
     LATIN SMALL LETTER H WITH CIRCUMFLEX;LATIN CAPITAL LETTER H WITH STROKE;
     LATIN SMALL LETTER H WITH STROKE;LATIN CAPITAL LETTER I WITH TILDE;
     LATIN SMALL LETTER I WITH TILDE;LATIN CAPITAL LETTER I WITH MACRON;
     LATIN SMALL LETTER I WITH MACRON;LATIN CAPITAL LETTER I WITH BREVE;
     LATIN SMALL LETTER I WITH BREVE;LATIN CAPITAL LETTER I WITH OGONEK;
     LATIN SMALL LETTER I WITH OGONEK;LATIN CAPITAL LETTER I WITH DOT ABOVE;
     LATIN SMALL LETTER DOTLESS I;LATIN CAPITAL LIGATURE IJ;LATIN SMALL LIGATURE IJ;
     LATIN CAPITAL LETTER J WITH CIRCUMFLEX;LATIN SMALL LETTER J WITH CIRCUMFLEX;
     LATIN CAPITAL LETTER K WITH CEDILLA;LATIN SMALL LETTER K WITH CEDILLA;LATIN SMALL LETTER KRA;
     LATIN CAPITAL LETTER L WITH ACUTE;LATIN SMALL LETTER L WITH ACUTE;
     LATIN CAPITAL LETTER L WITH CEDILLA;LATIN SMALL LETTER L WITH CEDILLA;
     LATIN CAPITAL LETTER L WITH CARON;LATIN SMALL LETTER L WITH CARON;
     LATIN CAPITAL LETTER L WITH MIDDLE DOT;LATIN SMALL LETTER L WITH MIDDLE DOT;
     LATIN CAPITAL LETTER L WITH STROKE;LATIN SMALL LETTER L WITH STROKE;
     LATIN CAPITAL LETTER N WITH ACUTE;LATIN SMALL LETTER N WITH ACUTE;
     LATIN CAPITAL LETTER N WITH CEDILLA;LATIN SMALL LETTER N WITH CEDILLA;
     LATIN CAPITAL LETTER N WITH CARON;LATIN SMALL LETTER N WITH CARON;
     LATIN SMALL LETTER N PRECEDED BY APOSTROPHE;LATIN CAPITAL LETTER ENG;LATIN SMALL LETTER ENG;
     LATIN CAPITAL LETTER O WITH MACRON;LATIN SMALL LETTER O WITH MACRON;
     LATIN CAPITAL LETTER O WITH BREVE;LATIN SMALL LETTER O WITH BREVE;
     LATIN CAPITAL LETTER O WITH DOUBLE ACUTE;LATIN SMALL LETTER O WITH DOUBLE ACUTE;
     LATIN CAPITAL LIGATURE OE;LATIN SMALL LIGATURE OE;LATIN CAPITAL LETTER R WITH ACUTE;
     LATIN SMALL LETTER R WITH ACUTE;LATIN CAPITAL LETTER R WITH CEDILLA;
     LATIN SMALL LETTER R WITH CEDILLA;LATIN CAPITAL LETTER R WITH CARON;
     LATIN SMALL LETTER R WITH CARON;LATIN CAPITAL LETTER S WITH ACUTE;
     LATIN SMALL LETTER S WITH ACUTE;LATIN CAPITAL LETTER S WITH CIRCUMFLEX;
     LATIN SMALL LETTER S WITH CIRCUMFLEX;LATIN CAPITAL LETTER S WITH CEDILLA;
     LATIN SMALL LETTER S WITH CEDILLA;LATIN CAPITAL LETTER S WITH CARON;
     LATIN SMALL LETTER S WITH CARON;LATIN CAPITAL LETTER T WITH CEDILLA;
     LATIN SMALL LETTER T WITH CEDILLA;LATIN CAPITAL LETTER T WITH CARON;
     LATIN SMALL LETTER T WITH CARON;LATIN CAPITAL LETTER T WITH STROKE;
     LATIN SMALL LETTER T WITH STROKE;LATIN CAPITAL LETTER U WITH TILDE;
     LATIN SMALL LETTER U WITH TILDE;LATIN CAPITAL LETTER U WITH MACRON;
     LATIN SMALL LETTER U WITH MACRON;LATIN CAPITAL LETTER U WITH BREVE;
     LATIN SMALL LETTER U WITH BREVE;LATIN CAPITAL LETTER U WITH RING ABOVE;
     LATIN SMALL LETTER U WITH RING ABOVE;LATIN CAPITAL LETTER U WITH DOUBLE ACUTE;
     LATIN SMALL LETTER U WITH DOUBLE ACUTE;LATIN CAPITAL LETTER U WITH OGONEK;
     LATIN SMALL LETTER U WITH OGONEK;LATIN CAPITAL LETTER W WITH CIRCUMFLEX;
     LATIN SMALL LETTER W WITH CIRCUMFLEX;LATIN CAPITAL LETTER Y WITH CIRCUMFLEX;
     LATIN SMALL LETTER Y WITH CIRCUMFLEX;LATIN CAPITAL LETTER Y WITH DIAERESIS;
     LATIN CAPITAL LETTER Z WITH ACUTE;LATIN SMALL LETTER Z WITH ACUTE;
     LATIN CAPITAL LETTER Z WITH DOT ABOVE;LATIN SMALL LETTER Z WITH DOT ABOVE;
     LATIN CAPITAL LETTER Z WITH CARON;LATIN SMALL LETTER Z WITH CARON;LATIN SMALL LETTER LONG S"),
  (0x370,
    "GREEK CAPITAL LETTER HETA;GREEK SMALL LETTER HETA;GREEK CAPITAL LETTER ARCHAIC SAMPI;
     GREEK SMALL LETTER ARCHAIC SAMPI;GREEK NUMERAL SIGN;GREEK LOWER NUMERAL SIGN;
     GREEK CAPITAL LETTER PAMPHYLIAN DIGAMMA;GREEK SMALL LETTER PAMPHYLIAN DIGAMMA"),
  (0x37a,
    "GREEK YPOGEGRAMMENI;GREEK SMALL REVERSED LUNATE SIGMA SYMBOL;
     GREEK SMALL DOTTED LUNATE SIGMA SYMBOL;GREEK SMALL REVERSED DOTTED LUNATE SIGMA SYMBOL;
     GREEK QUESTION MARK;GREEK CAPITAL LETTER YOT"),
  (0x384,
    "GREEK TONOS;GREEK DIALYTIKA TONOS;GREEK CAPITAL LETTER ALPHA WITH TONOS;GREEK ANO TELEIA;
     GREEK CAPITAL LETTER EPSILON WITH TONOS;GREEK CAPITAL LETTER ETA WITH TONOS;
     GREEK CAPITAL LETTER IOTA WITH TONOS"),
  (0x38c,
    "GREEK CAPITAL LETTER OMICRON WITH TONOS"),
  (0x38e,
    "GREEK CAPITAL LETTER UPSILON WITH TONOS;GREEK CAPITAL LETTER OMEGA WITH TONOS;
     GREEK SMALL LETTER IOTA WITH DIALYTIKA AND TONOS;GREEK CAPITAL LETTER ALPHA;
     GREEK CAPITAL LETTER BETA;GREEK CAPITAL LETTER GAMMA;GREEK CAPITAL LETTER DELTA;
     GREEK CAPITAL LETTER EPSILON;GREEK CAPITAL LETTER ZETA;GREEK CAPITAL LETTER ETA;
     GREEK CAPITAL LETTER THETA;GREEK CAPITAL LETTER IOTA;GREEK CAPITAL LETTER KAPPA;
     GREEK CAPITAL LETTER LAMDA;GREEK CAPITAL LETTER MU;GREEK CAPITAL LETTER NU;
     GREEK CAPITAL LETTER XI;GREEK CAPITAL LETTER OMICRON;GREEK CAPITAL LETTER PI;
     GREEK CAPITAL LETTER RHO"),
  (0x3a3,
    "GREEK CAPITAL LETTER SIGMA;GREEK CAPITAL LETTER TAU;GREEK CAPITAL LETTER UPSILON;
     GREEK CAPITAL LETTER PHI;GREEK CAPITAL LETTER CHI;GREEK CAPITAL LETTER PSI;
     GREEK CAPITAL LETTER OMEGA;GREEK CAPITAL LETTER IOTA WITH DIALYTIKA;
     GREEK CAPITAL LETTER UPSILON WITH DIALYTIKA;GREEK SMALL LETTER ALPHA WITH TONOS;
     GREEK SMALL LETTER EPSILON WITH TONOS;GREEK SMALL LETTER ETA WITH TONOS;
     GREEK SMALL LETTER IOTA WITH TONOS;GREEK SMALL LETTER UPSILON WITH DIALYTIKA AND TONOS;
     GREEK SMALL LETTER ALPHA;GREEK SMALL LETTER BETA;GREEK SMALL LETTER GAMMA;
     GREEK SMALL LETTER DELTA;GREEK SMALL LETTER EPSILON;GREEK SMALL LETTER ZETA;
     GREEK SMALL LETTER ETA;GREEK SMALL LETTER THETA;GREEK SMALL LETTER IOTA;
     GREEK SMALL LETTER KAPPA;GREEK SMALL LETTER LAMDA;GREEK SMALL LETTER MU;GREEK SMALL LETTER NU;
     GREEK SMALL LETTER XI;GREEK SMALL LETTER OMICRON;GREEK SMALL LETTER PI;GREEK SMALL LETTER RHO;
     GREEK SMALL LETTER FINAL SIGMA;GREEK SMALL LETTER SIGMA;GREEK SMALL LETTER TAU;
     GREEK SMALL LETTER UPSILON;GREEK SMALL LETTER PHI;GREEK SMALL LETTER CHI;
     GREEK SMALL LETTER PSI;GREEK SMALL LETTER OMEGA;GREEK SMALL LETTER IOTA WITH DIALYTIKA;
     GREEK SMALL LETTER UPSILON WITH DIALYTIKA;GREEK SMALL LETTER OMICRON WITH TONOS;
     GREEK SMALL LETTER UPSILON WITH TONOS;GREEK SMALL LETTER OMEGA WITH TONOS;
     GREEK CAPITAL KAI SYMBOL;GREEK BETA SYMBOL;GREEK THETA SYMBOL;GREEK UPSILON WITH HOOK SYMBOL;
     GREEK UPSILON WITH ACUTE AND HOOK SYMBOL;GREEK UPSILON WITH DIAERESIS AND HOOK SYMBOL;
     GREEK PHI SYMBOL;GREEK PI SYMBOL;GREEK KAI SYMBOL;GREEK LETTER ARCHAIC KOPPA;
     GREEK SMALL LETTER ARCHAIC KOPPA;GREEK LETTER STIGMA;GREEK SMALL LETTER STIGMA;
     GREEK LETTER DIGAMMA;GREEK SMALL LETTER DIGAMMA;GREEK LETTER KOPPA;GREEK SMALL LETTER KOPPA;
     GREEK LETTER SAMPI;GREEK SMALL LETTER SAMPI;COPTIC CAPITAL LETTER SHEI;
     COPTIC SMALL LETTER SHEI;COPTIC CAPITAL LETTER FEI;COPTIC SMALL LETTER FEI;
     COPTIC CAPITAL LETTER KHEI;COPTIC SMALL LETTER KHEI;COPTIC CAPITAL LETTER HORI;
     COPTIC SMALL LETTER HORI;COPTIC CAPITAL LETTER GANGIA;COPTIC SMALL LETTER GANGIA;
     COPTIC CAPITAL LETTER SHIMA;COPTIC SMALL LETTER SHIMA;COPTIC CAPITAL LETTER DEI;
     COPTIC SMALL LETTER DEI;GREEK KAPPA SYMBOL;GREEK RHO SYMBOL;GREEK LUNATE SIGMA SYMBOL;
     GREEK LETTER YOT;GREEK CAPITAL THETA SYMBOL;GREEK LUNATE EPSILON SYMBOL;
     GREEK REVERSED LUNATE EPSILON SYMBOL;GREEK CAPITAL LETTER SHO;GREEK SMALL LETTER SHO;
     GREEK CAPITAL LUNATE SIGMA SYMBOL;GREEK CAPITAL LETTER SAN;GREEK SMALL LETTER SAN;
     GREEK RHO WITH STROKE SYMBOL;GREEK CAPITAL REVERSED LUNATE SIGMA SYMBOL;
     GREEK CAPITAL DOTTED LUNATE SIGMA SYMBOL;GREEK CAPITAL REVERSED DOTTED LUNATE SIGMA SYMBOL;
     CYRILLIC CAPITAL LETTER IE WITH GRAVE;CYRILLIC CAPITAL LETTER IO;CYRILLIC CAPITAL LETTER DJE;
     CYRILLIC CAPITAL LETTER GJE;CYRILLIC CAPITAL LETTER UKRAINIAN IE;CYRILLIC CAPITAL LETTER DZE;
     CYRILLIC CAPITAL LETTER BYELORUSSIAN-UKRAINIAN I;CYRILLIC CAPITAL LETTER YI;
     CYRILLIC CAPITAL LETTER JE;CYRILLIC CAPITAL LETTER LJE;CYRILLIC CAPITAL LETTER NJE;
     CYRILLIC CAPITAL LETTER TSHE;CYRILLIC CAPITAL LETTER KJE;CYRILLIC CAPITAL LETTER I WITH GRAVE;
     CYRILLIC CAPITAL LETTER SHORT U;CYRILLIC CAPITAL LETTER DZHE;CYRILLIC CAPITAL LETTER A;
     CYRILLIC CAPITAL LETTER BE;CYRILLIC CAPITAL LETTER VE;CYRILLIC CAPITAL LETTER GHE;
     CYRILLIC CAPITAL LETTER DE;CYRILLIC CAPITAL LETTER IE;CYRILLIC CAPITAL LETTER ZHE;
     CYRILLIC CAPITAL LETTER ZE;CYRILLIC CAPITAL LETTER I;CYRILLIC CAPITAL LETTER SHORT I;
     CYRILLIC CAPITAL LETTER KA;CYRILLIC CAPITAL LETTER EL;CYRILLIC CAPITAL LETTER EM;
     CYRILLIC CAPITAL LETTER EN;CYRILLIC CAPITAL LETTER O;CYRILLIC CAPITAL LETTER PE;
     CYRILLIC CAPITAL LETTER ER;CYRILLIC CAPITAL LETTER ES;CYRILLIC CAPITAL LETTER TE;
     CYRILLIC CAPITAL LETTER U;CYRILLIC CAPITAL LETTER EF;CYRILLIC CAPITAL LETTER HA;
     CYRILLIC CAPITAL LETTER TSE;CYRILLIC CAPITAL LETTER CHE;CYRILLIC CAPITAL LETTER SHA;
     CYRILLIC CAPITAL LETTER SHCHA;CYRILLIC CAPITAL LETTER HARD SIGN;CYRILLIC CAPITAL LETTER YERU;
     CYRILLIC CAPITAL LETTER SOFT SIGN;CYRILLIC CAPITAL LETTER E;CYRILLIC CAPITAL LETTER YU;
     CYRILLIC CAPITAL LETTER YA;CYRILLIC SMALL LETTER A;CYRILLIC SMALL LETTER BE;
     CYRILLIC SMALL LETTER VE;CYRILLIC SMALL LETTER GHE;CYRILLIC SMALL LETTER DE;
     CYRILLIC SMALL LETTER IE;CYRILLIC SMALL LETTER ZHE;CYRILLIC SMALL LETTER ZE;
     CYRILLIC SMALL LETTER I;CYRILLIC SMALL LETTER SHORT I;CYRILLIC SMALL LETTER KA;
     CYRILLIC SMALL LETTER EL;CYRILLIC SMALL LETTER EM;CYRILLIC SMALL LETTER EN;
     CYRILLIC SMALL LETTER O;CYRILLIC SMALL LETTER PE;CYRILLIC SMALL LETTER ER;
     CYRILLIC SMALL LETTER ES;CYRILLIC SMALL LETTER TE;CYRILLIC SMALL LETTER U;
     CYRILLIC SMALL LETTER EF;CYRILLIC SMALL LETTER HA;CYRILLIC SMALL LETTER TSE;
     CYRILLIC SMALL LETTER CHE;CYRILLIC SMALL LETTER SHA;CYRILLIC SMALL LETTER SHCHA;
     CYRILLIC SMALL LETTER HARD SIGN;CYRILLIC SMALL LETTER YERU;CYRILLIC SMALL LETTER SOFT SIGN;
     CYRILLIC SMALL LETTER E;CYRILLIC SMALL LETTER YU;CYRILLIC SMALL LETTER YA;
     CYRILLIC SMALL LETTER IE WITH GRAVE;CYRILLIC SMALL LETTER IO;CYRILLIC SMALL LETTER DJE;
     CYRILLIC SMALL LETTER GJE;CYRILLIC SMALL LETTER UKRAINIAN IE;CYRILLIC SMALL LETTER DZE;
     CYRILLIC SMALL LETTER BYELORUSSIAN-UKRAINIAN I;CYRILLIC SMALL LETTER YI;
     CYRILLIC SMALL LETTER JE;CYRILLIC SMALL LETTER LJE;CYRILLIC SMALL LETTER NJE;
     CYRILLIC SMALL LETTER TSHE;CYRILLIC SMALL LETTER KJE;CYRILLIC SMALL LETTER I WITH GRAVE;
     CYRILLIC SMALL LETTER SHORT U;CYRILLIC SMALL LETTER DZHE"),
  (0x2000,
    "EN QUAD;EM QUAD;EN SPACE;EM SPACE;THREE-PER-EM SPACE;FOUR-PER-EM SPACE;SIX-PER-EM SPACE;
     FIGURE SPACE;PUNCTUATION SPACE;THIN SPACE;HAIR SPACE;ZERO WIDTH SPACE;ZERO WIDTH NON-JOINER;
     ZERO WIDTH JOINER;LEFT-TO-RIGHT MARK;RIGHT-TO-LEFT MARK;HYPHEN;NON-BREAKING HYPHEN;
     FIGURE DASH;EN DASH;EM DASH;HORIZONTAL BAR;DOUBLE VERTICAL LINE;DOUBLE LOW LINE;
     LEFT SINGLE QUOTATION MARK;RIGHT SINGLE QUOTATION MARK;SINGLE LOW-9 QUOTATION MARK;
     SINGLE HIGH-REVERSED-9 QUOTATION MARK;LEFT DOUBLE QUOTATION MARK;RIGHT DOUBLE QUOTATION MARK;
     DOUBLE LOW-9 QUOTATION MARK;DOUBLE HIGH-REVERSED-9 QUOTATION MARK;DAGGER;DOUBLE DAGGER;BULLET;
     TRIANGULAR BULLET;ONE DOT LEADER;TWO DOT LEADER;HORIZONTAL ELLIPSIS;HYPHENATION POINT"),
  (0x202f,
    "NARROW NO-BREAK SPACE;PER MILLE SIGN;PER TEN THOUSAND SIGN;PRIME;DOUBLE PRIME;TRIPLE PRIME;
     REVERSED PRIME;REVERSED DOUBLE PRIME;REVERSED TRIPLE PRIME;CARET;
     SINGLE LEFT-POINTING ANGLE QUOTATION MARK;SINGLE RIGHT-POINTING ANGLE QUOTATION MARK;
     REFERENCE MARK;DOUBLE EXCLAMATION MARK;INTERROBANG;OVERLINE;UNDERTIE;CHARACTER TIE;
     CARET INSERTION POINT;ASTERISM;HYPHEN BULLET;FRACTION SLASH;LEFT SQUARE BRACKET WITH QUILL;
     RIGHT SQUARE BRACKET WITH QUILL;DOUBLE QUESTION MARK;QUESTION EXCLAMATION MARK;
     EXCLAMATION QUESTION MARK;TIRONIAN SIGN ET;REVERSED PILCROW SIGN;BLACK LEFTWARDS BULLET;
     BLACK RIGHTWARDS BULLET;LOW ASTERISK;REVERSED SEMICOLON;CLOSE UP;
     TWO ASTERISKS ALIGNED VERTICALLY;COMMERCIAL MINUS SIGN;SWUNG DASH;INVERTED UNDERTIE;
     FLOWER PUNCTUATION MARK;THREE DOT PUNCTUATION;QUADRUPLE PRIME;FOUR DOT PUNCTUATION;
     FIVE DOT PUNCTUATION;TWO DOT PUNCTUATION;FOUR DOT MARK;DOTTED CROSS;TRICOLON;
     VERTICAL FOUR DOTS;MEDIUM MATHEMATICAL SPACE"),
  (0x20a0,
    "EURO-CURRENCY SIGN;COLON SIGN;CRUZEIRO SIGN;FRENCH FRANC SIGN;LIRA SIGN;MILL SIGN;NAIRA SIGN;
     PESETA SIGN;RUPEE SIGN;WON SIGN;NEW SHEQEL SIGN;DONG SIGN;EURO SIGN;KIP SIGN;TUGRIK SIGN;
     DRACHMA SIGN;GERMAN PENNY SIGN;PESO SIGN;GUARANI SIGN;AUSTRAL SIGN;HRYVNIA SIGN;CEDI SIGN;
     LIVRE TOURNOIS SIGN;SPESMILO SIGN;TENGE SIGN;INDIAN RUPEE SIGN;TURKISH LIRA SIGN;
     NORDIC MARK SIGN;MANAT SIGN;RUBLE SIGN;LARI SIGN;BITCOIN SIGN;SOM SIGN"),
  (0x2100,
    "ACCOUNT OF;ADDRESSED TO THE SUBJECT;DOUBLE-STRUCK CAPITAL C;DEGREE CELSIUS;CENTRE LINE SYMBOL;
     CARE OF;CADA UNA;EULER CONSTANT;SCRUPLE;DEGREE FAHRENHEIT;SCRIPT SMALL G;SCRIPT CAPITAL H;
     BLACK-LETTER CAPITAL H;DOUBLE-STRUCK CAPITAL H;PLANCK CONSTANT;PLANCK CONSTANT OVER TWO PI;
     SCRIPT CAPITAL I;BLACK-LETTER CAPITAL I;SCRIPT CAPITAL L;SCRIPT SMALL L;L B BAR SYMBOL;
     DOUBLE-STRUCK CAPITAL N;NUMERO SIGN;SOUND RECORDING COPYRIGHT;SCRIPT CAPITAL P;
     DOUBLE-STRUCK CAPITAL P;DOUBLE-STRUCK CAPITAL Q;SCRIPT CAPITAL R;BLACK-LETTER CAPITAL R;
     DOUBLE-STRUCK CAPITAL R;PRESCRIPTION TAKE;RESPONSE;SERVICE MARK;TELEPHONE SIGN;
     TRADE MARK SIGN;VERSICLE;DOUBLE-STRUCK CAPITAL Z;OUNCE SIGN;OHM SIGN;INVERTED OHM SIGN;
     BLACK-LETTER CAPITAL Z;TURNED GREEK SMALL LETTER IOTA;KELVIN SIGN;ANGSTROM SIGN;
     SCRIPT CAPITAL B;BLACK-LETTER CAPITAL C;ESTIMATED SYMBOL;SCRIPT SMALL E;SCRIPT CAPITAL E;
     SCRIPT CAPITAL F;TURNED CAPITAL F;SCRIPT CAPITAL M;SCRIPT SMALL O;ALEF SYMBOL;BET SYMBOL;
     GIMEL SYMBOL;DALET SYMBOL;INFORMATION SOURCE;ROTATED CAPITAL Q;FACSIMILE SIGN;
     DOUBLE-STRUCK SMALL PI;DOUBLE-STRUCK SMALL GAMMA;DOUBLE-STRUCK CAPITAL GAMMA;
     DOUBLE-STRUCK CAPITAL PI;DOUBLE-STRUCK N-ARY SUMMATION;TURNED SANS-SERIF CAPITAL G;
     TURNED SANS-SERIF CAPITAL L;REVERSED SANS-SERIF CAPITAL L;TURNED SANS-SERIF CAPITAL Y;
     DOUBLE-STRUCK ITALIC CAPITAL D;DOUBLE-STRUCK ITALIC SMALL D;DOUBLE-STRUCK ITALIC SMALL E;
     DOUBLE-STRUCK ITALIC SMALL I;DOUBLE-STRUCK ITALIC SMALL J;PROPERTY LINE;TURNED AMPERSAND;
     PER SIGN;AKTIESELSKAB;TURNED SMALL F;SYMBOL FOR SAMARITAN SOURCE"),
  (0x2190,
    "LEFTWARDS ARROW;UPWARDS ARROW;RIGHTWARDS ARROW;DOWNWARDS ARROW;LEFT RIGHT ARROW;UP DOWN ARROW;
     NORTH WEST ARROW;NORTH EAST ARROW;SOUTH EAST ARROW;SOUTH WEST ARROW;
     LEFTWARDS ARROW WITH STROKE;RIGHTWARDS ARROW WITH STROKE;LEFTWARDS WAVE ARROW;
     RIGHTWARDS WAVE ARROW;LEFTWARDS TWO HEADED ARROW;UPWARDS TWO HEADED ARROW;
     RIGHTWARDS TWO HEADED ARROW;DOWNWARDS TWO HEADED ARROW;LEFTWARDS ARROW WITH TAIL;
     RIGHTWARDS ARROW WITH TAIL;LEFTWARDS ARROW FROM BAR;UPWARDS ARROW FROM BAR;
     RIGHTWARDS ARROW FROM BAR;DOWNWARDS ARROW FROM BAR;UP DOWN ARROW WITH BASE;
     LEFTWARDS ARROW WITH HOOK;RIGHTWARDS ARROW WITH HOOK;LEFTWARDS ARROW WITH LOOP;
     RIGHTWARDS ARROW WITH LOOP;LEFT RIGHT WAVE ARROW;LEFT RIGHT ARROW WITH STROKE;
     DOWNWARDS ZIGZAG ARROW;UPWARDS ARROW WITH TIP LEFTWARDS;UPWARDS ARROW WITH TIP RIGHTWARDS;
     DOWNWARDS ARROW WITH TIP LEFTWARDS;DOWNWARDS ARROW WITH TIP RIGHTWARDS;
     RIGHTWARDS ARROW WITH CORNER DOWNWARDS;DOWNWARDS ARROW WITH CORNER LEFTWARDS;
     ANTICLOCKWISE TOP SEMICIRCLE ARROW;CLOCKWISE TOP SEMICIRCLE ARROW;
     NORTH WEST ARROW TO LONG BAR;LEFTWARDS ARROW TO BAR OVER RIGHTWARDS ARROW TO BAR;
     ANTICLOCKWISE OPEN CIRCLE ARROW;CLOCKWISE OPEN CIRCLE ARROW;
     LEFTWARDS HARPOON WITH BARB UPWARDS;LEFTWARDS HARPOON WITH BARB DOWNWARDS;
     UPWARDS HARPOON WITH BARB RIGHTWARDS;UPWARDS HARPOON WITH BARB LEFTWARDS;
     RIGHTWARDS HARPOON WITH BARB UPWARDS;RIGHTWARDS HARPOON WITH BARB DOWNWARDS;
     DOWNWARDS HARPOON WITH BARB RIGHTWARDS;DOWNWARDS HARPOON WITH BARB LEFTWARDS;
     RIGHTWARDS ARROW OVER LEFTWARDS ARROW;UPWARDS ARROW LEFTWARDS OF DOWNWARDS ARROW;
     LEFTWARDS ARROW OVER RIGHTWARDS ARROW;LEFTWARDS PAIRED ARROWS;UPWARDS PAIRED ARROWS;
     RIGHTWARDS PAIRED ARROWS;DOWNWARDS PAIRED ARROWS;LEFTWARDS HARPOON OVER RIGHTWARDS HARPOON;
     RIGHTWARDS HARPOON OVER LEFTWARDS HARPOON;LEFTWARDS DOUBLE ARROW WITH STROKE;
     LEFT RIGHT DOUBLE ARROW WITH STROKE;RIGHTWARDS DOUBLE ARROW WITH STROKE;
     LEFTWARDS DOUBLE ARROW;UPWARDS DOUBLE ARROW;RIGHTWARDS DOUBLE ARROW;DOWNWARDS DOUBLE ARROW;
     LEFT RIGHT DOUBLE ARROW;UP DOWN DOUBLE ARROW;NORTH WEST DOUBLE ARROW;NORTH EAST DOUBLE ARROW;
     SOUTH EAST DOUBLE ARROW;SOUTH WEST DOUBLE ARROW;LEFTWARDS TRIPLE ARROW;
     RIGHTWARDS TRIPLE ARROW;LEFTWARDS SQUIGGLE ARROW;RIGHTWARDS SQUIGGLE ARROW;
     UPWARDS ARROW WITH DOUBLE STROKE;DOWNWARDS ARROW WITH DOUBLE STROKE;LEFTWARDS DASHED ARROW;
     UPWARDS DASHED ARROW;RIGHTWARDS DASHED ARROW;DOWNWARDS DASHED ARROW;LEFTWARDS ARROW TO BAR;
     RIGHTWARDS ARROW TO BAR;LEFTWARDS WHITE ARROW;UPWARDS WHITE ARROW;RIGHTWARDS WHITE ARROW;
     DOWNWARDS WHITE ARROW;UPWARDS WHITE ARROW FROM BAR;UPWARDS WHITE ARROW ON PEDESTAL;
     UPWARDS WHITE ARROW ON PEDESTAL WITH HORIZONTAL BAR;
     UPWARDS WHITE ARROW ON PEDESTAL WITH VERTICAL BAR;UPWARDS WHITE DOUBLE ARROW;
     UPWARDS WHITE DOUBLE ARROW ON PEDESTAL;RIGHTWARDS WHITE ARROW FROM WALL;
     NORTH WEST ARROW TO CORNER;SOUTH EAST ARROW TO CORNER;UP DOWN WHITE ARROW;
     RIGHT ARROW WITH SMALL CIRCLE;DOWNWARDS ARROW LEFTWARDS OF UPWARDS ARROW;
     THREE RIGHTWARDS ARROWS;LEFTWARDS ARROW WITH VERTICAL STROKE;
     RIGHTWARDS ARROW WITH VERTICAL STROKE;LEFT RIGHT ARROW WITH VERTICAL STROKE;
     LEFTWARDS ARROW WITH DOUBLE VERTICAL STROKE;RIGHTWARDS ARROW WITH DOUBLE VERTICAL STROKE;
     LEFT RIGHT ARROW WITH DOUBLE VERTICAL STROKE;LEFTWARDS OPEN-HEADED ARROW;
     RIGHTWARDS OPEN-HEADED ARROW;LEFT RIGHT OPEN-HEADED ARROW"),
  (0x2200,
    "FOR ALL;COMPLEMENT;PARTIAL DIFFERENTIAL;THERE EXISTS;THERE DOES NOT EXIST;EMPTY SET;INCREMENT;
     NABLA;ELEMENT OF;NOT AN ELEMENT OF;SMALL ELEMENT OF;CONTAINS AS MEMBER;
     DOES NOT CONTAIN AS MEMBER;SMALL CONTAINS AS MEMBER;END OF PROOF;N-ARY PRODUCT;
     N-ARY COPRODUCT;N-ARY SUMMATION;MINUS SIGN;MINUS-OR-PLUS SIGN;DOT PLUS;DIVISION SLASH;
     SET MINUS;ASTERISK OPERATOR;RING OPERATOR;BULLET OPERATOR;SQUARE ROOT;CUBE ROOT;FOURTH ROOT;
     PROPORTIONAL TO;INFINITY;RIGHT ANGLE;ANGLE;MEASURED ANGLE;SPHERICAL ANGLE;DIVIDES;
     DOES NOT DIVIDE;PARALLEL TO;NOT PARALLEL TO;LOGICAL AND;LOGICAL OR;INTERSECTION;UNION;
     INTEGRAL;DOUBLE INTEGRAL;TRIPLE INTEGRAL;CONTOUR INTEGRAL;SURFACE INTEGRAL;VOLUME INTEGRAL;
     CLOCKWISE INTEGRAL;CLOCKWISE CONTOUR INTEGRAL;ANTICLOCKWISE CONTOUR INTEGRAL;THEREFORE;
     BECAUSE;RATIO;PROPORTION;DOT MINUS;EXCESS;GEOMETRIC PROPORTION;HOMOTHETIC;TILDE OPERATOR;
     REVERSED TILDE;INVERTED LAZY S;SINE WAVE;WREATH PRODUCT;NOT TILDE;MINUS TILDE;
     ASYMPTOTICALLY EQUAL TO;NOT ASYMPTOTICALLY EQUAL TO;APPROXIMATELY EQUAL TO;
     APPROXIMATELY BUT NOT ACTUALLY EQUAL TO;NEITHER APPROXIMATELY NOR ACTUALLY EQUAL TO;
     ALMOST EQUAL TO;NOT ALMOST EQUAL TO;ALMOST EQUAL OR EQUAL TO;TRIPLE TILDE;ALL EQUAL TO;
     EQUIVALENT TO;GEOMETRICALLY EQUIVALENT TO;DIFFERENCE BETWEEN;APPROACHES THE LIMIT;
     GEOMETRICALLY EQUAL TO;APPROXIMATELY EQUAL TO OR THE IMAGE OF;
     IMAGE OF OR APPROXIMATELY EQUAL TO;COLON EQUALS;EQUALS COLON;RING IN EQUAL TO;RING EQUAL TO;
     CORRESPONDS TO;ESTIMATES;EQUIANGULAR TO;STAR EQUALS;DELTA EQUAL TO;EQUAL TO BY DEFINITION;
     MEASURED BY;QUESTIONED EQUAL TO;NOT EQUAL TO;IDENTICAL TO;NOT IDENTICAL TO;
     STRICTLY EQUIVALENT TO;LESS-THAN OR EQUAL TO;GREATER-THAN OR EQUAL TO;LESS-THAN OVER EQUAL TO;
     GREATER-THAN OVER EQUAL TO;LESS-THAN BUT NOT EQUAL TO;GREATER-THAN BUT NOT EQUAL TO;
     MUCH LESS-THAN;MUCH GREATER-THAN;BETWEEN;NOT EQUIVALENT TO;NOT LESS-THAN;NOT GREATER-THAN;
     NEITHER LESS-THAN NOR EQUAL TO;NEITHER GREATER-THAN NOR EQUAL TO;LESS-THAN OR EQUIVALENT TO;
     GREATER-THAN OR EQUIVALENT TO;NEITHER LESS-THAN NOR EQUIVALENT TO;
     NEITHER GREATER-THAN NOR EQUIVALENT TO;LESS-THAN OR GREATER-THAN;GREATER-THAN OR LESS-THAN;
     NEITHER LESS-THAN NOR GREATER-THAN;NEITHER GREATER-THAN NOR LESS-THAN;PRECEDES;SUCCEEDS;
     PRECEDES OR EQUAL TO;SUCCEEDS OR EQUAL TO;PRECEDES OR EQUIVALENT TO;SUCCEEDS OR EQUIVALENT TO;
     DOES NOT PRECEDE;DOES NOT SUCCEED;SUBSET OF;SUPERSET OF;NOT A SUBSET OF;NOT A SUPERSET OF;
     SUBSET OF OR EQUAL TO;SUPERSET OF OR EQUAL TO;NEITHER A SUBSET OF NOR EQUAL TO;
     NEITHER A SUPERSET OF NOR EQUAL TO;SUBSET OF WITH NOT EQUAL TO;SUPERSET OF WITH NOT EQUAL TO;
     MULTISET;MULTISET MULTIPLICATION;MULTISET UNION;SQUARE IMAGE OF"),
  (0x2291,
    "SQUARE IMAGE OF OR EQUAL TO"),
  (0x2293,
    "SQUARE CAP;SQUARE CUP;CIRCLED PLUS;CIRCLED MINUS;CIRCLED TIMES;CIRCLED DIVISION SLASH;
     CIRCLED DOT OPERATOR;CIRCLED RING OPERATOR;CIRCLED ASTERISK OPERATOR;CIRCLED EQUALS;
     CIRCLED DASH;SQUARED PLUS;SQUARED MINUS;SQUARED TIMES;SQUARED DOT OPERATOR;RIGHT TACK;
     LEFT TACK;DOWN TACK;UP TACK;ASSERTION;MODELS;TRUE;FORCES;TRIPLE VERTICAL BAR RIGHT TURNSTILE;
     DOUBLE VERTICAL BAR DOUBLE RIGHT TURNSTILE;DOES NOT PROVE;NOT TRUE;DOES NOT FORCE;
     NEGATED DOUBLE VERTICAL BAR DOUBLE RIGHT TURNSTILE;PRECEDES UNDER RELATION;
     SUCCEEDS UNDER RELATION;NORMAL SUBGROUP OF;CONTAINS AS NORMAL SUBGROUP;
     NORMAL SUBGROUP OF OR EQUAL TO;CONTAINS AS NORMAL SUBGROUP OR EQUAL TO"),
  (0x22b7,
    "IMAGE OF;MULTIMAP;HERMITIAN CONJUGATE MATRIX;INTERCALATE;XOR;NAND;NOR;RIGHT ANGLE WITH ARC;
     RIGHT TRIANGLE;N-ARY LOGICAL AND;N-ARY LOGICAL OR;N-ARY INTERSECTION;N-ARY UNION;
     DIAMOND OPERATOR;DOT OPERATOR;STAR OPERATOR;DIVISION TIMES;BOWTIE;
     LEFT NORMAL FACTOR SEMIDIRECT PRODUCT;RIGHT NORMAL FACTOR SEMIDIRECT PRODUCT;
     LEFT SEMIDIRECT PRODUCT;RIGHT SEMIDIRECT PRODUCT;REVERSED TILDE EQUALS;CURLY LOGICAL OR;
     CURLY LOGICAL AND;DOUBLE SUBSET;DOUBLE SUPERSET;DOUBLE INTERSECTION;DOUBLE UNION;PITCHFORK;
     EQUAL AND PARALLEL TO;LESS-THAN WITH DOT;GREATER-THAN WITH DOT;VERY MUCH LESS-THAN;
     VERY MUCH GREATER-THAN;LESS-THAN EQUAL TO OR GREATER-THAN;GREATER-THAN EQUAL TO OR LESS-THAN;
     EQUAL TO OR LESS-THAN;EQUAL TO OR GREATER-THAN;EQUAL TO OR PRECEDES;EQUAL TO OR SUCCEEDS;
     DOES NOT PRECEDE OR EQUAL;DOES NOT SUCCEED OR EQUAL;NOT SQUARE IMAGE OF OR EQUAL TO"),
  (0x22e4,
    "SQUARE IMAGE OF OR NOT EQUAL TO"),
  (0x22e6,
    "LESS-THAN BUT NOT EQUIVALENT TO;GREATER-THAN BUT NOT EQUIVALENT TO;
     PRECEDES BUT NOT EQUIVALENT TO;SUCCEEDS BUT NOT EQUIVALENT TO;NOT NORMAL SUBGROUP OF;
     DOES NOT CONTAIN AS NORMAL SUBGROUP;NOT NORMAL SUBGROUP OF OR EQUAL TO;
     DOES NOT CONTAIN AS NORMAL SUBGROUP OR EQUAL;VERTICAL ELLIPSIS;MIDLINE HORIZONTAL ELLIPSIS;
     UP RIGHT DIAGONAL ELLIPSIS;DOWN RIGHT DIAGONAL ELLIPSIS;
     ELEMENT OF WITH LONG HORIZONTAL STROKE;
     ELEMENT OF WITH VERTICAL BAR AT END OF HORIZONTAL STROKE;
     SMALL ELEMENT OF WITH VERTICAL BAR AT END OF HORIZONTAL STROKE;ELEMENT OF WITH DOT ABOVE;
     ELEMENT OF WITH OVERBAR;SMALL ELEMENT OF WITH OVERBAR;ELEMENT OF WITH UNDERBAR;
     ELEMENT OF WITH TWO HORIZONTAL STROKES;CONTAINS WITH LONG HORIZONTAL STROKE;
     CONTAINS WITH VERTICAL BAR AT END OF HORIZONTAL STROKE;
     SMALL CONTAINS WITH VERTICAL BAR AT END OF HORIZONTAL STROKE;CONTAINS WITH OVERBAR;
     SMALL CONTAINS WITH OVERBAR;Z NOTATION BAG MEMBERSHIP"),
  (0x25a0,
    "BLACK SQUARE;WHITE SQUARE;WHITE SQUARE WITH ROUNDED CORNERS;
     WHITE SQUARE CONTAINING BLACK SMALL SQUARE;SQUARE WITH HORIZONTAL FILL;
     SQUARE WITH VERTICAL FILL;SQUARE WITH ORTHOGONAL CROSSHATCH FILL;
     SQUARE WITH UPPER LEFT TO LOWER RIGHT FILL;SQUARE WITH UPPER RIGHT TO LOWER LEFT FILL;
     SQUARE WITH DIAGONAL CROSSHATCH FILL;BLACK SMALL SQUARE;WHITE SMALL SQUARE;BLACK RECTANGLE;
     WHITE RECTANGLE;BLACK VERTICAL RECTANGLE;WHITE VERTICAL RECTANGLE;BLACK PARALLELOGRAM;
     WHITE PARALLELOGRAM;BLACK UP-POINTING TRIANGLE;WHITE UP-POINTING TRIANGLE;
     BLACK UP-POINTING SMALL TRIANGLE;WHITE UP-POINTING SMALL TRIANGLE;
     BLACK RIGHT-POINTING TRIANGLE;WHITE RIGHT-POINTING TRIANGLE;
     BLACK RIGHT-POINTING SMALL TRIANGLE;WHITE RIGHT-POINTING SMALL TRIANGLE;
     BLACK RIGHT-POINTING POINTER;WHITE RIGHT-POINTING POINTER;BLACK DOWN-POINTING TRIANGLE;
     WHITE DOWN-POINTING TRIANGLE;BLACK DOWN-POINTING SMALL TRIANGLE;
     WHITE DOWN-POINTING SMALL TRIANGLE;BLACK LEFT-POINTING TRIANGLE;WHITE LEFT-POINTING TRIANGLE;
     BLACK LEFT-POINTING SMALL TRIANGLE;WHITE LEFT-POINTING SMALL TRIANGLE;
     BLACK LEFT-POINTING POINTER;WHITE LEFT-POINTING POINTER;BLACK DIAMOND;WHITE DIAMOND;
     WHITE DIAMOND CONTAINING BLACK SMALL DIAMOND;FISHEYE;LOZENGE;WHITE CIRCLE;DOTTED CIRCLE;
     CIRCLE WITH VERTICAL FILL;BULLSEYE;BLACK CIRCLE;CIRCLE WITH LEFT HALF BLACK;
     CIRCLE WITH RIGHT HALF BLACK;CIRCLE WITH LOWER HALF BLACK;CIRCLE WITH UPPER HALF BLACK;
     CIRCLE WITH UPPER RIGHT QUADRANT BLACK;CIRCLE WITH ALL BUT UPPER LEFT QUADRANT BLACK;
     LEFT HALF BLACK CIRCLE;RIGHT HALF BLACK CIRCLE;INVERSE BULLET;INVERSE WHITE CIRCLE;
     UPPER HALF INVERSE WHITE CIRCLE;LOWER HALF INVERSE WHITE CIRCLE;
     UPPER LEFT QUADRANT CIRCULAR ARC;UPPER RIGHT QUADRANT CIRCULAR ARC;
     LOWER RIGHT QUADRANT CIRCULAR ARC;LOWER LEFT QUADRANT CIRCULAR ARC;UPPER HALF CIRCLE;
     LOWER HALF CIRCLE;BLACK LOWER RIGHT TRIANGLE;BLACK LOWER LEFT TRIANGLE;
     BLACK UPPER LEFT TRIANGLE;BLACK UPPER RIGHT TRIANGLE;WHITE BULLET;SQUARE WITH LEFT HALF BLACK;
     SQUARE WITH RIGHT HALF BLACK;SQUARE WITH UPPER LEFT DIAGONAL HALF BLACK;
     SQUARE WITH LOWER RIGHT DIAGONAL HALF BLACK;WHITE SQUARE WITH VERTICAL BISECTING LINE;
     WHITE UP-POINTING TRIANGLE WITH DOT;UP-POINTING TRIANGLE WITH LEFT HALF BLACK;
     UP-POINTING TRIANGLE WITH RIGHT HALF BLACK;LARGE CIRCLE;WHITE SQUARE WITH UPPER LEFT QUADRANT;
     WHITE SQUARE WITH LOWER LEFT QUADRANT;WHITE SQUARE WITH LOWER RIGHT QUADRANT;
     WHITE SQUARE WITH UPPER RIGHT QUADRANT;WHITE CIRCLE WITH UPPER LEFT QUADRANT;
     WHITE CIRCLE WITH LOWER LEFT QUADRANT;WHITE CIRCLE WITH LOWER RIGHT QUADRANT;
     WHITE CIRCLE WITH UPPER RIGHT QUADRANT;UPPER LEFT TRIANGLE;UPPER RIGHT TRIANGLE;
     LOWER LEFT TRIANGLE;WHITE MEDIUM SQUARE;BLACK MEDIUM SQUARE;WHITE MEDIUM SMALL SQUARE;
     BLACK MEDIUM SMALL SQUARE;LOWER RIGHT TRIANGLE"),
  (0x2600,
    "BLACK SUN WITH RAYS;CLOUD;UMBRELLA;SNOWMAN;COMET;BLACK STAR;WHITE STAR;LIGHTNING;THUNDERSTORM;
     SUN;ASCENDING NODE;DESCENDING NODE;CONJUNCTION;OPPOSITION;BLACK TELEPHONE;WHITE TELEPHONE;
     BALLOT BOX;BALLOT BOX WITH CHECK;BALLOT BOX WITH X;SALTIRE;UMBRELLA WITH RAIN DROPS;
     HOT BEVERAGE;WHITE SHOGI PIECE;BLACK SHOGI PIECE;SHAMROCK;
     REVERSED ROTATED FLORAL HEART BULLET;BLACK LEFT POINTING INDEX;BLACK RIGHT POINTING INDEX;
     WHITE LEFT POINTING INDEX;WHITE UP POINTING INDEX;WHITE RIGHT POINTING INDEX;
     WHITE DOWN POINTING INDEX;SKULL AND CROSSBONES;CAUTION SIGN;RADIOACTIVE SIGN;BIOHAZARD SIGN;
     CADUCEUS;ANKH;ORTHODOX CROSS;CHI RHO;CROSS OF LORRAINE;CROSS OF JERUSALEM;STAR AND CRESCENT;
     FARSI SYMBOL;ADI SHAKTI;HAMMER AND SICKLE;PEACE SYMBOL;YIN YANG;TRIGRAM FOR HEAVEN;
     TRIGRAM FOR LAKE;TRIGRAM FOR FIRE;TRIGRAM FOR THUNDER;TRIGRAM FOR WIND;TRIGRAM FOR WATER;
     TRIGRAM FOR MOUNTAIN;TRIGRAM FOR EARTH;WHEEL OF DHARMA;WHITE FROWNING FACE;WHITE SMILING FACE;
     BLACK SMILING FACE;WHITE SUN WITH RAYS;FIRST QUARTER MOON;LAST QUARTER MOON;MERCURY;
     FEMALE SIGN;EARTH;MALE SIGN;JUPITER;SATURN;URANUS;NEPTUNE;PLUTO;ARIES;TAURUS;GEMINI;CANCER;
     LEO;VIRGO;LIBRA;SCORPIUS;SAGITTARIUS;CAPRICORN;AQUARIUS;PISCES;WHITE CHESS KING;
     WHITE CHESS QUEEN;WHITE CHESS ROOK;WHITE CHESS BISHOP;WHITE CHESS KNIGHT;WHITE CHESS PAWN;
     BLACK CHESS KING;BLACK CHESS QUEEN;BLACK CHESS ROOK;BLACK CHESS BISHOP;BLACK CHESS KNIGHT;
     BLACK CHESS PAWN;BLACK SPADE SUIT;WHITE HEART SUIT;WHITE DIAMOND SUIT;BLACK CLUB SUIT;
     WHITE SPADE SUIT;BLACK HEART SUIT;BLACK DIAMOND SUIT;WHITE CLUB SUIT;HOT SPRINGS;QUARTER NOTE;
     EIGHTH NOTE;BEAMED EIGHTH NOTES;BEAMED SIXTEENTH NOTES;MUSIC FLAT SIGN;MUSIC NATURAL SIGN;
     MUSIC SHARP SIGN;WEST SYRIAC CROSS;EAST SYRIAC CROSS;UNIVERSAL RECYCLING SYMBOL;
     RECYCLING SYMBOL FOR TYPE-1 PLASTICS;RECYCLING SYMBOL FOR TYPE-2 PLASTICS;
     RECYCLING SYMBOL FOR TYPE-3 PLASTICS;RECYCLING SYMBOL FOR TYPE-4 PLASTICS;
     RECYCLING SYMBOL FOR TYPE-5 PLASTICS;RECYCLING SYMBOL FOR TYPE-6 PLASTICS;
     RECYCLING SYMBOL FOR TYPE-7 PLASTICS;RECYCLING SYMBOL FOR GENERIC MATERIALS;
     BLACK UNIVERSAL RECYCLING SYMBOL;RECYCLED PAPER SYMBOL;PARTIALLY-RECYCLED PAPER SYMBOL;
     PERMANENT PAPER SIGN;WHEELCHAIR SYMBOL;DIE FACE-1;DIE FACE-2;DIE FACE-3;DIE FACE-4;DIE FACE-5;
     DIE FACE-6;WHITE CIRCLE WITH DOT RIGHT;WHITE CIRCLE WITH TWO DOTS;
     BLACK CIRCLE WITH WHITE DOT RIGHT;BLACK CIRCLE WITH TWO WHITE DOTS;MONOGRAM FOR YANG;
     MONOGRAM FOR YIN;DIGRAM FOR GREATER YANG;DIGRAM FOR LESSER YIN;DIGRAM FOR LESSER YANG;
     DIGRAM FOR GREATER YIN;WHITE FLAG;BLACK FLAG;HAMMER AND PICK;ANCHOR;CROSSED SWORDS;
     STAFF OF AESCULAPIUS;SCALES;ALEMBIC;FLOWER;GEAR;STAFF OF HERMES;ATOM SYMBOL;FLEUR-DE-LIS;
     OUTLINED WHITE STAR;THREE LINES CONVERGING RIGHT;THREE LINES CONVERGING LEFT;WARNING SIGN;
     HIGH VOLTAGE SIGN;DOUBLED FEMALE SIGN;DOUBLED MALE SIGN;INTERLOCKED FEMALE AND MALE SIGN;
     MALE AND FEMALE SIGN;MALE WITH STROKE SIGN;MALE WITH STROKE AND MALE AND FEMALE SIGN;
     VERTICAL MALE WITH STROKE SIGN;HORIZONTAL MALE WITH STROKE SIGN;MEDIUM WHITE CIRCLE;
     MEDIUM BLACK CIRCLE;MEDIUM SMALL WHITE CIRCLE;MARRIAGE SYMBOL;DIVORCE SYMBOL;
     UNMARRIED PARTNERSHIP SYMBOL;COFFIN;FUNERAL URN;NEUTER;CERES;PALLAS;JUNO;VESTA;CHIRON;
     BLACK MOON LILITH;SEXTILE;SEMISEXTILE;QUINCUNX;SESQUIQUADRATE;SOCCER BALL;BASEBALL;
     SQUARED KEY;WHITE DRAUGHTS MAN;WHITE DRAUGHTS KING;BLACK DRAUGHTS MAN;BLACK DRAUGHTS KING;
     SNOWMAN WITHOUT SNOW;SUN BEHIND CLOUD;RAIN;BLACK SNOWMAN;THUNDER CLOUD AND RAIN;
     TURNED WHITE SHOGI PIECE;TURNED BLACK SHOGI PIECE;WHITE DIAMOND IN SQUARE;CROSSING LANES;
     DISABLED CAR;OPHIUCHUS;PICK;CAR SLIDING;HELMET WITH WHITE CROSS;CIRCLED CROSSING LANES;CHAINS;
     NO ENTRY;ALTERNATE ONE-WAY LEFT WAY TRAFFIC;BLACK TWO-WAY LEFT WAY TRAFFIC;
     WHITE TWO-WAY LEFT WAY TRAFFIC;BLACK LEFT LANE MERGE;WHITE LEFT LANE MERGE;DRIVE SLOW SIGN;
     HEAVY WHITE DOWN-POINTING TRIANGLE;LEFT CLOSED ENTRY;SQUARED SALTIRE;
     FALLING DIAGONAL IN WHITE CIRCLE IN BLACK SQUARE;BLACK TRUCK;RESTRICTED LEFT ENTRY-1;
     RESTRICTED LEFT ENTRY-2;ASTRONOMICAL SYMBOL FOR URANUS;
     HEAVY CIRCLE WITH STROKE AND TWO DOTS ABOVE;PENTAGRAM;RIGHT-HANDED INTERLACED PENTAGRAM;
     LEFT-HANDED INTERLACED PENTAGRAM;INVERTED PENTAGRAM;BLACK CROSS ON SHIELD;SHINTO SHRINE;
     CHURCH;CASTLE;HISTORIC SITE;GEAR WITHOUT HUB;GEAR WITH HANDLES;MAP SYMBOL FOR LIGHTHOUSE;
     MOUNTAIN;UMBRELLA ON GROUND;FOUNTAIN;FLAG IN HOLE;FERRY;SAILBOAT;SQUARE FOUR CORNERS;SKIER;
     ICE SKATE;PERSON WITH BALL;TENT;JAPANESE BANK SYMBOL;HEADSTONE GRAVEYARD SYMBOL;FUEL PUMP;
     CUP ON BLACK SQUARE;WHITE FLAG WITH HORIZONTAL MIDDLE BLACK STRIPE"),
  (0x2701,
    "UPPER BLADE SCISSORS;BLACK SCISSORS;LOWER BLADE SCISSORS;WHITE SCISSORS;
     WHITE HEAVY CHECK MARK;TELEPHONE LOCATION SIGN;TAPE DRIVE;AIRPLANE;ENVELOPE;RAISED FIST;
     RAISED HAND;VICTORY HAND;WRITING HAND;LOWER RIGHT PENCIL;PENCIL;UPPER RIGHT PENCIL;WHITE NIB;
     BLACK NIB;CHECK MARK;HEAVY CHECK MARK;MULTIPLICATION X;HEAVY MULTIPLICATION X;BALLOT X;
     HEAVY BALLOT X;OUTLINED GREEK CROSS;HEAVY GREEK CROSS;OPEN CENTRE CROSS;
     HEAVY OPEN CENTRE CROSS;LATIN CROSS;SHADOWED WHITE LATIN CROSS;OUTLINED LATIN CROSS;
     MALTESE CROSS;STAR OF DAVID;FOUR TEARDROP-SPOKED ASTERISK;FOUR BALLOON-SPOKED ASTERISK;
     HEAVY FOUR BALLOON-SPOKED ASTERISK;FOUR CLUB-SPOKED ASTERISK;BLACK FOUR POINTED STAR;
     WHITE FOUR POINTED STAR;SPARKLES;STRESS OUTLINED WHITE STAR;CIRCLED WHITE STAR;
     OPEN CENTRE BLACK STAR;BLACK CENTRE WHITE STAR;OUTLINED BLACK STAR;HEAVY OUTLINED BLACK STAR;
     PINWHEEL STAR;SHADOWED WHITE STAR;HEAVY ASTERISK;OPEN CENTRE ASTERISK;EIGHT SPOKED ASTERISK;
     EIGHT POINTED BLACK STAR;EIGHT POINTED PINWHEEL STAR;SIX POINTED BLACK STAR;
     EIGHT POINTED RECTILINEAR BLACK STAR;HEAVY EIGHT POINTED RECTILINEAR BLACK STAR;
     TWELVE POINTED BLACK STAR;SIXTEEN POINTED ASTERISK;TEARDROP-SPOKED ASTERISK;
     OPEN CENTRE TEARDROP-SPOKED ASTERISK;HEAVY TEARDROP-SPOKED ASTERISK;
     SIX PETALLED BLACK AND WHITE FLORETTE;BLACK FLORETTE;WHITE FLORETTE;
     EIGHT PETALLED OUTLINED BLACK FLORETTE;CIRCLED OPEN CENTRE EIGHT POINTED STAR;
     HEAVY TEARDROP-SPOKED PINWHEEL ASTERISK;SNOWFLAKE;TIGHT TRIFOLIATE SNOWFLAKE;
     HEAVY CHEVRON SNOWFLAKE;SPARKLE;HEAVY SPARKLE;BALLOON-SPOKED ASTERISK;
     EIGHT TEARDROP-SPOKED PROPELLER ASTERISK;HEAVY EIGHT TEARDROP-SPOKED PROPELLER ASTERISK;
     CROSS MARK;SHADOWED WHITE CIRCLE;NEGATIVE SQUARED CROSS MARK;
     LOWER RIGHT DROP-SHADOWED WHITE SQUARE;UPPER RIGHT DROP-SHADOWED WHITE SQUARE;
     LOWER RIGHT SHADOWED WHITE SQUARE;UPPER RIGHT SHADOWED WHITE SQUARE;
     BLACK QUESTION MARK ORNAMENT;WHITE QUESTION MARK ORNAMENT;WHITE EXCLAMATION MARK ORNAMENT;
     BLACK DIAMOND MINUS WHITE X;HEAVY EXCLAMATION MARK SYMBOL;LIGHT VERTICAL BAR;
     MEDIUM VERTICAL BAR;HEAVY VERTICAL BAR;HEAVY SINGLE TURNED COMMA QUOTATION MARK ORNAMENT;
     HEAVY SINGLE COMMA QUOTATION MARK ORNAMENT;HEAVY DOUBLE TURNED COMMA QUOTATION MARK ORNAMENT;
     HEAVY DOUBLE COMMA QUOTATION MARK ORNAMENT;HEAVY LOW SINGLE COMMA QUOTATION MARK ORNAMENT;
     HEAVY LOW DOUBLE COMMA QUOTATION MARK ORNAMENT;CURVED STEM PARAGRAPH SIGN ORNAMENT;
     HEAVY EXCLAMATION MARK ORNAMENT;HEAVY HEART EXCLAMATION MARK ORNAMENT;HEAVY BLACK HEART;
     ROTATED HEAVY BLACK HEART BULLET;FLORAL HEART;ROTATED FLORAL HEART BULLET;
     MEDIUM LEFT PARENTHESIS ORNAMENT;MEDIUM RIGHT PARENTHESIS ORNAMENT;
     MEDIUM FLATTENED LEFT PARENTHESIS ORNAMENT;MEDIUM FLATTENED RIGHT PARENTHESIS ORNAMENT;
     MEDIUM LEFT-POINTING ANGLE BRACKET ORNAMENT;MEDIUM RIGHT-POINTING ANGLE BRACKET ORNAMENT;
     HEAVY LEFT-POINTING ANGLE QUOTATION MARK ORNAMENT;
     HEAVY RIGHT-POINTING ANGLE QUOTATION MARK ORNAMENT;HEAVY LEFT-POINTING ANGLE BRACKET ORNAMENT;
     HEAVY RIGHT-POINTING ANGLE BRACKET ORNAMENT;LIGHT LEFT TORTOISE SHELL BRACKET ORNAMENT;
     LIGHT RIGHT TORTOISE SHELL BRACKET ORNAMENT;MEDIUM LEFT CURLY BRACKET ORNAMENT;
     MEDIUM RIGHT CURLY BRACKET ORNAMENT;DINGBAT NEGATIVE CIRCLED DIGIT ONE;
     DINGBAT NEGATIVE CIRCLED DIGIT TWO;DINGBAT NEGATIVE CIRCLED DIGIT THREE;
     DINGBAT NEGATIVE CIRCLED DIGIT FOUR;DINGBAT NEGATIVE CIRCLED DIGIT FIVE;
     DINGBAT NEGATIVE CIRCLED DIGIT SIX;DINGBAT NEGATIVE CIRCLED DIGIT SEVEN;
     DINGBAT NEGATIVE CIRCLED DIGIT EIGHT;DINGBAT NEGATIVE CIRCLED DIGIT NINE;
     DINGBAT NEGATIVE CIRCLED NUMBER TEN;DINGBAT CIRCLED SANS-SERIF DIGIT ONE;
     DINGBAT CIRCLED SANS-SERIF DIGIT TWO;DINGBAT CIRCLED SANS-SERIF DIGIT THREE;
     DINGBAT CIRCLED SANS-SERIF DIGIT FOUR;DINGBAT CIRCLED SANS-SERIF DIGIT FIVE;
     DINGBAT CIRCLED SANS-SERIF DIGIT SIX;DINGBAT CIRCLED SANS-SERIF DIGIT SEVEN;
     DINGBAT CIRCLED SANS-SERIF DIGIT EIGHT;DINGBAT CIRCLED SANS-SERIF DIGIT NINE;
     DINGBAT CIRCLED SANS-SERIF NUMBER TEN;DINGBAT NEGATIVE CIRCLED SANS-SERIF DIGIT ONE;
     DINGBAT NEGATIVE CIRCLED SANS-SERIF DIGIT TWO;DINGBAT NEGATIVE CIRCLED SANS-SERIF DIGIT THREE;
     DINGBAT NEGATIVE CIRCLED SANS-SERIF DIGIT FOUR;DINGBAT NEGATIVE CIRCLED SANS-SERIF DIGIT FIVE;
     DINGBAT NEGATIVE CIRCLED SANS-SERIF DIGIT SIX;DINGBAT NEGATIVE CIRCLED SANS-SERIF DIGIT SEVEN;
     DINGBAT NEGATIVE CIRCLED SANS-SERIF DIGIT EIGHT;
     DINGBAT NEGATIVE CIRCLED SANS-SERIF DIGIT NINE;DINGBAT NEGATIVE CIRCLED SANS-SERIF NUMBER TEN;
     HEAVY WIDE-HEADED RIGHTWARDS ARROW;HEAVY PLUS SIGN;HEAVY MINUS SIGN;HEAVY DIVISION SIGN;
     HEAVY SOUTH EAST ARROW;HEAVY RIGHTWARDS ARROW;HEAVY NORTH EAST ARROW;
     DRAFTING POINT RIGHTWARDS ARROW;HEAVY ROUND-TIPPED RIGHTWARDS ARROW;
     TRIANGLE-HEADED RIGHTWARDS ARROW;HEAVY TRIANGLE-HEADED RIGHTWARDS ARROW;
     DASHED TRIANGLE-HEADED RIGHTWARDS ARROW;HEAVY DASHED TRIANGLE-HEADED RIGHTWARDS ARROW;
     BLACK RIGHTWARDS ARROW;THREE-D TOP-LIGHTED RIGHTWARDS ARROWHEAD;
     THREE-D BOTTOM-LIGHTED RIGHTWARDS ARROWHEAD;BLACK RIGHTWARDS ARROWHEAD;
     HEAVY BLACK CURVED DOWNWARDS AND RIGHTWARDS ARROW;
     HEAVY BLACK CURVED UPWARDS AND RIGHTWARDS ARROW;SQUAT BLACK RIGHTWARDS ARROW;
     HEAVY CONCAVE-POINTED BLACK RIGHTWARDS ARROW;RIGHT-SHADED WHITE RIGHTWARDS ARROW;
     LEFT-SHADED WHITE RIGHTWARDS ARROW;BACK-TILTED SHADOWED WHITE RIGHTWARDS ARROW;
     FRONT-TILTED SHADOWED WHITE RIGHTWARDS ARROW;
     HEAVY LOWER RIGHT-SHADOWED WHITE RIGHTWARDS ARROW;
     HEAVY UPPER RIGHT-SHADOWED WHITE RIGHTWARDS ARROW;
     NOTCHED LOWER RIGHT-SHADOWED WHITE RIGHTWARDS ARROW;CURLY LOOP;
     NOTCHED UPPER RIGHT-SHADOWED WHITE RIGHTWARDS ARROW;CIRCLED HEAVY WHITE RIGHTWARDS ARROW;
     WHITE-FEATHERED RIGHTWARDS ARROW;BLACK-FEATHERED SOUTH EAST ARROW;
     BLACK-FEATHERED RIGHTWARDS ARROW;BLACK-FEATHERED NORTH EAST ARROW;
     HEAVY BLACK-FEATHERED SOUTH EAST ARROW;HEAVY BLACK-FEATHERED RIGHTWARDS ARROW;
     HEAVY BLACK-FEATHERED NORTH EAST ARROW;TEARDROP-BARBED RIGHTWARDS ARROW;
     HEAVY TEARDROP-SHANKED RIGHTWARDS ARROW;WEDGE-TAILED RIGHTWARDS ARROW;
     HEAVY WEDGE-TAILED RIGHTWARDS ARROW;OPEN-OUTLINED RIGHTWARDS ARROW;DOUBLE CURLY LOOP"),
  (0x1f300,
    "CYCLONE;FOGGY;CLOSED UMBRELLA;NIGHT WITH STARS;SUNRISE OVER MOUNTAINS;SUNRISE;
     CITYSCAPE AT DUSK;SUNSET OVER BUILDINGS;RAINBOW;BRIDGE AT NIGHT;WATER WAVE;VOLCANO;MILKY WAY;
     EARTH GLOBE EUROPE-AFRICA;EARTH GLOBE AMERICAS;EARTH GLOBE ASIA-AUSTRALIA;
     GLOBE WITH MERIDIANS;NEW MOON SYMBOL;WAXING CRESCENT MOON SYMBOL;FIRST QUARTER MOON SYMBOL;
     WAXING GIBBOUS MOON SYMBOL;FULL MOON SYMBOL;WANING GIBBOUS MOON SYMBOL;
     LAST QUARTER MOON SYMBOL;WANING CRESCENT MOON SYMBOL;CRESCENT MOON;NEW MOON WITH FACE;
     FIRST QUARTER MOON WITH FACE;LAST QUARTER MOON WITH FACE;FULL MOON WITH FACE;SUN WITH FACE;
     GLOWING STAR;SHOOTING STAR;THERMOMETER;BLACK DROPLET;WHITE SUN;WHITE SUN WITH SMALL CLOUD;
     WHITE SUN BEHIND CLOUD;WHITE SUN BEHIND CLOUD WITH RAIN;CLOUD WITH RAIN;CLOUD WITH SNOW;
     CLOUD WITH LIGHTNING;CLOUD WITH TORNADO;FOG;WIND BLOWING FACE;HOT DOG;TACO;BURRITO;CHESTNUT;
     SEEDLING;EVERGREEN TREE;DECIDUOUS TREE;PALM TREE;CACTUS;HOT PEPPER;TULIP;CHERRY BLOSSOM;ROSE;
     HIBISCUS;SUNFLOWER;BLOSSOM;EAR OF MAIZE;EAR OF RICE;HERB;FOUR LEAF CLOVER;MAPLE LEAF;
     FALLEN LEAF;LEAF FLUTTERING IN WIND;MUSHROOM;TOMATO;AUBERGINE;GRAPES;MELON;WATERMELON;
     TANGERINE;LEMON;BANANA;PINEAPPLE;RED APPLE;GREEN APPLE;PEAR;PEACH;CHERRIES;STRAWBERRY;
     HAMBURGER;SLICE OF PIZZA;MEAT ON BONE;POULTRY LEG;RICE CRACKER;RICE BALL;COOKED RICE;
     CURRY AND RICE;STEAMING BOWL;SPAGHETTI;BREAD;FRENCH FRIES;ROASTED SWEET POTATO;DANGO;ODEN;
     SUSHI;FRIED SHRIMP;FISH CAKE WITH SWIRL DESIGN;SOFT ICE CREAM;SHAVED ICE;ICE CREAM;DOUGHNUT;
     COOKIE;CHOCOLATE BAR;CANDY;LOLLIPOP;CUSTARD;HONEY POT;SHORTCAKE;BENTO BOX;POT OF FOOD;COOKING;
     FORK AND KNIFE;TEACUP WITHOUT HANDLE;SAKE BOTTLE AND CUP;WINE GLASS;COCKTAIL GLASS;
     TROPICAL DRINK;BEER MUG;CLINKING BEER MUGS;BABY BOTTLE;FORK AND KNIFE WITH PLATE;
     BOTTLE WITH POPPING CORK;POPCORN;RIBBON;WRAPPED PRESENT;BIRTHDAY CAKE;JACK-O-LANTERN;
     CHRISTMAS TREE;FATHER CHRISTMAS;FIREWORKS;FIREWORK SPARKLER;BALLOON;PARTY POPPER;
     CONFETTI BALL;TANABATA TREE;CROSSED FLAGS;PINE DECORATION;JAPANESE DOLLS;CARP STREAMER;
     WIND CHIME;MOON VIEWING CEREMONY;SCHOOL SATCHEL;GRADUATION CAP;HEART WITH TIP ON THE LEFT;
     BOUQUET OF FLOWERS;MILITARY MEDAL;REMINDER RIBBON;MUSICAL KEYBOARD WITH JACKS;
     STUDIO MICROPHONE;LEVEL SLIDER;CONTROL KNOBS;BEAMED ASCENDING MUSICAL NOTES;
     BEAMED DESCENDING MUSICAL NOTES;FILM FRAMES;ADMISSION TICKETS;CAROUSEL HORSE;FERRIS WHEEL;
     ROLLER COASTER;FISHING POLE AND FISH;MICROPHONE;MOVIE CAMERA;CINEMA;HEADPHONE;ARTIST PALETTE;
     TOP HAT;CIRCUS TENT;TICKET;CLAPPER BOARD;PERFORMING ARTS;VIDEO GAME;DIRECT HIT;SLOT MACHINE;
     BILLIARDS;GAME DIE;BOWLING;FLOWER PLAYING CARDS;MUSICAL NOTE;MULTIPLE MUSICAL NOTES;SAXOPHONE;
     GUITAR;MUSICAL KEYBOARD;TRUMPET;VIOLIN;MUSICAL SCORE;RUNNING SHIRT WITH SASH;
     TENNIS RACQUET AND BALL;SKI AND SKI BOOT;BASKETBALL AND HOOP;CHEQUERED FLAG;SNOWBOARDER;
     RUNNER;SURFER;SPORTS MEDAL;TROPHY;HORSE RACING;AMERICAN FOOTBALL;RUGBY FOOTBALL;SWIMMER;
     WEIGHT LIFTER;GOLFER;RACING MOTORCYCLE;RACING CAR;CRICKET BAT AND BALL;VOLLEYBALL;
     FIELD HOCKEY STICK AND BALL;ICE HOCKEY STICK AND PUCK;TABLE TENNIS PADDLE AND BALL;
     SNOW CAPPED MOUNTAIN;CAMPING;BEACH WITH UMBRELLA;BUILDING CONSTRUCTION;HOUSE BUILDINGS;
     CITYSCAPE;DERELICT HOUSE BUILDING;CLASSICAL BUILDING;DESERT;DESERT ISLAND;NATIONAL PARK;
     STADIUM;HOUSE BUILDING;HOUSE WITH GARDEN;OFFICE BUILDING;JAPANESE POST OFFICE;
     EUROPEAN POST OFFICE;HOSPITAL;BANK;AUTOMATED TELLER MACHINE;HOTEL;LOVE HOTEL;
     CONVENIENCE STORE;SCHOOL;DEPARTMENT STORE;FACTORY;IZAKAYA LANTERN;JAPANESE CASTLE;
     EUROPEAN CASTLE;WHITE PENNANT;BLACK PENNANT;WAVING WHITE FLAG;WAVING BLACK FLAG;ROSETTE;
     BLACK ROSETTE;LABEL;BADMINTON RACQUET AND SHUTTLECOCK;BOW AND ARROW;AMPHORA;
     EMOJI MODIFIER FITZPATRICK TYPE-1-2;EMOJI MODIFIER FITZPATRICK TYPE-3;
     EMOJI MODIFIER FITZPATRICK TYPE-4;EMOJI MODIFIER FITZPATRICK TYPE-5;
     EMOJI MODIFIER FITZPATRICK TYPE-6;RAT;MOUSE;OX;WATER BUFFALO;COW;TIGER;LEOPARD;RABBIT;CAT;
     DRAGON;CROCODILE;WHALE;SNAIL;SNAKE;HORSE;RAM;GOAT;SHEEP;MONKEY;ROOSTER;CHICKEN;DOG;PIG;BOAR;
     ELEPHANT;OCTOPUS;SPIRAL SHELL;BUG;ANT;HONEYBEE;LADY BEETLE;FISH;TROPICAL FISH;BLOWFISH;TURTLE;
     HATCHING CHICK;BABY CHICK;FRONT-FACING BABY CHICK;BIRD;PENGUIN;KOALA;POODLE;DROMEDARY CAMEL;
     BACTRIAN CAMEL;DOLPHIN;MOUSE FACE;COW FACE;TIGER FACE;RABBIT FACE;CAT FACE;DRAGON FACE;
     SPOUTING WHALE;HORSE FACE;MONKEY FACE;DOG FACE;PIG FACE;FROG FACE;HAMSTER FACE;WOLF FACE;
     BEAR FACE;PANDA FACE;PIG NOSE;PAW PRINTS;CHIPMUNK;EYES;EYE;EAR;NOSE;MOUTH;TONGUE;
     WHITE UP POINTING BACKHAND INDEX;WHITE DOWN POINTING BACKHAND INDEX;
     WHITE LEFT POINTING BACKHAND INDEX;WHITE RIGHT POINTING BACKHAND INDEX;FISTED HAND SIGN;
     WAVING HAND SIGN;OK HAND SIGN;THUMBS UP SIGN;THUMBS DOWN SIGN;CLAPPING HANDS SIGN;
     OPEN HANDS SIGN;CROWN;WOMANS HAT;EYEGLASSES;NECKTIE;T-SHIRT;JEANS;DRESS;KIMONO;BIKINI;
     WOMANS CLOTHES;PURSE;HANDBAG;POUCH;MANS SHOE;ATHLETIC SHOE;HIGH-HEELED SHOE;WOMANS SANDAL;
     WOMANS BOOTS;FOOTPRINTS;BUST IN SILHOUETTE;BUSTS IN SILHOUETTE;BOY;GIRL;MAN;WOMAN;FAMILY;
     MAN AND WOMAN HOLDING HANDS;TWO MEN HOLDING HANDS;TWO WOMEN HOLDING HANDS;POLICE OFFICER;
     WOMAN WITH BUNNY EARS;BRIDE WITH VEIL;PERSON WITH BLOND HAIR;MAN WITH GUA PI MAO;
     MAN WITH TURBAN;OLDER MAN;OLDER WOMAN;BABY;CONSTRUCTION WORKER;PRINCESS;JAPANESE OGRE;
     JAPANESE GOBLIN;GHOST;BABY ANGEL;EXTRATERRESTRIAL ALIEN;ALIEN MONSTER;IMP;SKULL;
     INFORMATION DESK PERSON;GUARDSMAN;DANCER;LIPSTICK;NAIL POLISH;FACE MASSAGE;HAIRCUT;
     BARBER POLE;SYRINGE;PILL;KISS MARK;LOVE LETTER;RING;GEM STONE;KISS;BOUQUET;COUPLE WITH HEART;
     WEDDING;BEATING HEART;BROKEN HEART;TWO HEARTS;SPARKLING HEART;GROWING HEART;HEART WITH ARROW;
     BLUE HEART;GREEN HEART;YELLOW HEART;PURPLE HEART;HEART WITH RIBBON;REVOLVING HEARTS;
     HEART DECORATION;DIAMOND SHAPE WITH A DOT INSIDE;ELECTRIC LIGHT BULB;ANGER SYMBOL;BOMB;
     SLEEPING SYMBOL;COLLISION SYMBOL;SPLASHING SWEAT SYMBOL;DROPLET;DASH SYMBOL;PILE OF POO;
     FLEXED BICEPS;DIZZY SYMBOL;SPEECH BALLOON;THOUGHT BALLOON;WHITE FLOWER;HUNDRED POINTS SYMBOL;
     MONEY BAG;CURRENCY EXCHANGE;HEAVY DOLLAR SIGN;CREDIT CARD;BANKNOTE WITH YEN SIGN;
     BANKNOTE WITH DOLLAR SIGN;BANKNOTE WITH EURO SIGN;BANKNOTE WITH POUND SIGN;MONEY WITH WINGS;
     CHART WITH UPWARDS TREND AND YEN SIGN;SEAT;PERSONAL COMPUTER;BRIEFCASE;MINIDISC;FLOPPY DISK;
     OPTICAL DISC;DVD;FILE FOLDER;OPEN FILE FOLDER;PAGE WITH CURL;PAGE FACING UP;CALENDAR;
     TEAR-OFF CALENDAR;CARD INDEX;CHART WITH UPWARDS TREND;CHART WITH DOWNWARDS TREND;BAR CHART;
     CLIPBOARD;PUSHPIN;ROUND PUSHPIN;PAPERCLIP;STRAIGHT RULER;TRIANGULAR RULER;BOOKMARK TABS;
     LEDGER;NOTEBOOK;NOTEBOOK WITH DECORATIVE COVER;CLOSED BOOK;OPEN BOOK;GREEN BOOK;BLUE BOOK;
     ORANGE BOOK;BOOKS;NAME BADGE;SCROLL;MEMO;TELEPHONE RECEIVER;PAGER;FAX MACHINE;
     SATELLITE ANTENNA;PUBLIC ADDRESS LOUDSPEAKER;CHEERING MEGAPHONE;OUTBOX TRAY;INBOX TRAY;
     PACKAGE;E-MAIL SYMBOL;INCOMING ENVELOPE;ENVELOPE WITH DOWNWARDS ARROW ABOVE;
     CLOSED MAILBOX WITH LOWERED FLAG;CLOSED MAILBOX WITH RAISED FLAG;
     OPEN MAILBOX WITH RAISED FLAG;OPEN MAILBOX WITH LOWERED FLAG;POSTBOX;POSTAL HORN;NEWSPAPER;
     MOBILE PHONE;MOBILE PHONE WITH RIGHTWARDS ARROW AT LEFT;VIBRATION MODE;MOBILE PHONE OFF;
     NO MOBILE PHONES;ANTENNA WITH BARS;CAMERA;CAMERA WITH FLASH;VIDEO CAMERA;TELEVISION;RADIO;
     VIDEOCASSETTE;FILM PROJECTOR;PORTABLE STEREO;PRAYER BEADS;TWISTED RIGHTWARDS ARROWS;
     CLOCKWISE RIGHTWARDS AND LEFTWARDS OPEN CIRCLE ARROWS;
     CLOCKWISE RIGHTWARDS AND LEFTWARDS OPEN CIRCLE ARROWS WITH CIRCLED ONE OVERLAY;
     CLOCKWISE DOWNWARDS AND UPWARDS OPEN CIRCLE ARROWS;
     ANTICLOCKWISE DOWNWARDS AND UPWARDS OPEN CIRCLE ARROWS;LOW BRIGHTNESS SYMBOL;
     HIGH BRIGHTNESS SYMBOL;SPEAKER WITH CANCELLATION STROKE;SPEAKER;SPEAKER WITH ONE SOUND WAVE;
     SPEAKER WITH THREE SOUND WAVES;BATTERY;ELECTRIC PLUG;LEFT-POINTING MAGNIFYING GLASS;
     RIGHT-POINTING MAGNIFYING GLASS;LOCK WITH INK PEN;CLOSED LOCK WITH KEY;KEY;LOCK;OPEN LOCK;
     BELL;BELL WITH CANCELLATION STROKE;BOOKMARK;LINK SYMBOL;RADIO BUTTON;
     BACK WITH LEFTWARDS ARROW ABOVE;END WITH LEFTWARDS ARROW ABOVE;
     ON WITH EXCLAMATION MARK WITH LEFT RIGHT ARROW ABOVE;SOON WITH RIGHTWARDS ARROW ABOVE;
     TOP WITH UPWARDS ARROW ABOVE;NO ONE UNDER EIGHTEEN SYMBOL;KEYCAP TEN;
     INPUT SYMBOL FOR LATIN CAPITAL LETTERS;INPUT SYMBOL FOR LATIN SMALL LETTERS;
     INPUT SYMBOL FOR NUMBERS;INPUT SYMBOL FOR SYMBOLS;INPUT SYMBOL FOR LATIN LETTERS;FIRE;
     ELECTRIC TORCH;WRENCH;HAMMER;NUT AND BOLT;HOCHO;PISTOL;MICROSCOPE;TELESCOPE;CRYSTAL BALL;
     SIX POINTED STAR WITH MIDDLE DOT;JAPANESE SYMBOL FOR BEGINNER;TRIDENT EMBLEM;
     BLACK SQUARE BUTTON;WHITE SQUARE BUTTON;LARGE RED CIRCLE;LARGE BLUE CIRCLE;
     LARGE ORANGE DIAMOND;LARGE BLUE DIAMOND;SMALL ORANGE DIAMOND;SMALL BLUE DIAMOND;
     UP-POINTING RED TRIANGLE;DOWN-POINTING RED TRIANGLE;UP-POINTING SMALL RED TRIANGLE;
     DOWN-POINTING SMALL RED TRIANGLE;LOWER RIGHT SHADOWED WHITE CIRCLE;
     UPPER RIGHT SHADOWED WHITE CIRCLE;CIRCLED CROSS POMMEE;CROSS POMMEE WITH HALF-CIRCLE BELOW;
     CROSS POMMEE;NOTCHED LEFT SEMICIRCLE WITH THREE DOTS;NOTCHED RIGHT SEMICIRCLE WITH THREE DOTS;
     SYMBOL FOR MARKS CHAPTER;WHITE LATIN CROSS;HEAVY LATIN CROSS;CELTIC CROSS;OM SYMBOL;
     DOVE OF PEACE;KAABA;MOSQUE;SYNAGOGUE;MENORAH WITH NINE BRANCHES;BOWL OF HYGIEIA;
     CLOCK FACE ONE OCLOCK;CLOCK FACE TWO OCLOCK;CLOCK FACE THREE OCLOCK;CLOCK FACE FOUR OCLOCK;
     CLOCK FACE FIVE OCLOCK;CLOCK FACE SIX OCLOCK;CLOCK FACE SEVEN OCLOCK;CLOCK FACE EIGHT OCLOCK;
     CLOCK FACE NINE OCLOCK;CLOCK FACE TEN OCLOCK;CLOCK FACE ELEVEN OCLOCK;
     CLOCK FACE TWELVE OCLOCK;CLOCK FACE ONE-THIRTY;CLOCK FACE TWO-THIRTY;CLOCK FACE THREE-THIRTY;
     CLOCK FACE FOUR-THIRTY;CLOCK FACE FIVE-THIRTY;CLOCK FACE SIX-THIRTY;CLOCK FACE SEVEN-THIRTY;
     CLOCK FACE EIGHT-THIRTY;CLOCK FACE NINE-THIRTY;CLOCK FACE TEN-THIRTY;CLOCK FACE ELEVEN-THIRTY;
     CLOCK FACE TWELVE-THIRTY;RIGHT SPEAKER;RIGHT SPEAKER WITH ONE SOUND WAVE;
     RIGHT SPEAKER WITH THREE SOUND WAVES;BULLHORN;BULLHORN WITH SOUND WAVES;RINGING BELL;BOOK;
     CANDLE;MANTELPIECE CLOCK;BLACK SKULL AND CROSSBONES;NO PIRACY;HOLE;
     MAN IN BUSINESS SUIT LEVITATING;SLEUTH OR SPY;DARK SUNGLASSES;SPIDER;SPIDER WEB;JOYSTICK;
     MAN DANCING;LEFT HAND TELEPHONE RECEIVER;TELEPHONE RECEIVER WITH PAGE;
     RIGHT HAND TELEPHONE RECEIVER;WHITE TOUCHTONE TELEPHONE;BLACK TOUCHTONE TELEPHONE;
     TELEPHONE ON TOP OF MODEM;CLAMSHELL MOBILE PHONE;BACK OF ENVELOPE;STAMPED ENVELOPE;
     ENVELOPE WITH LIGHTNING;FLYING ENVELOPE;PEN OVER STAMPED ENVELOPE;LINKED PAPERCLIPS;
     BLACK PUSHPIN;LOWER LEFT PENCIL;LOWER LEFT BALLPOINT PEN;LOWER LEFT FOUNTAIN PEN;
     LOWER LEFT PAINTBRUSH;LOWER LEFT CRAYON;LEFT WRITING HAND;TURNED OK HAND SIGN;
     RAISED HAND WITH FINGERS SPLAYED;REVERSED RAISED HAND WITH FINGERS SPLAYED;
     REVERSED THUMBS UP SIGN;REVERSED THUMBS DOWN SIGN;REVERSED VICTORY HAND;
     REVERSED HAND WITH MIDDLE FINGER EXTENDED;
     RAISED HAND WITH PART BETWEEN MIDDLE AND RING FINGERS;WHITE DOWN POINTING LEFT HAND INDEX;
     SIDEWAYS WHITE LEFT POINTING INDEX;SIDEWAYS WHITE RIGHT POINTING INDEX;
     SIDEWAYS BLACK LEFT POINTING INDEX;SIDEWAYS BLACK RIGHT POINTING INDEX;
     BLACK LEFT POINTING BACKHAND INDEX;BLACK RIGHT POINTING BACKHAND INDEX;
     SIDEWAYS WHITE UP POINTING INDEX;SIDEWAYS WHITE DOWN POINTING INDEX;
     SIDEWAYS BLACK UP POINTING INDEX;SIDEWAYS BLACK DOWN POINTING INDEX;
     BLACK UP POINTING BACKHAND INDEX;BLACK DOWN POINTING BACKHAND INDEX;BLACK HEART;
     DESKTOP COMPUTER;KEYBOARD AND MOUSE;THREE NETWORKED COMPUTERS;PRINTER;POCKET CALCULATOR;
     BLACK HARD SHELL FLOPPY DISK;WHITE HARD SHELL FLOPPY DISK;SOFT SHELL FLOPPY DISK;
     TAPE CARTRIDGE;WIRED KEYBOARD;ONE BUTTON MOUSE;TWO BUTTON MOUSE;THREE BUTTON MOUSE;TRACKBALL;
     OLD PERSONAL COMPUTER;HARD DISK;SCREEN;PRINTER ICON;FAX ICON;OPTICAL DISC ICON;
     DOCUMENT WITH TEXT;DOCUMENT WITH TEXT AND PICTURE;DOCUMENT WITH PICTURE;FRAME WITH PICTURE;
     FRAME WITH TILES;FRAME WITH AN X;BLACK FOLDER;FOLDER;OPEN FOLDER;CARD INDEX DIVIDERS;
     CARD FILE BOX;FILE CABINET;EMPTY NOTE;EMPTY NOTE PAGE;EMPTY NOTE PAD;NOTE;NOTE PAGE;NOTE PAD;
     EMPTY DOCUMENT;EMPTY PAGE;EMPTY PAGES;DOCUMENT;PAGE;PAGES;WASTEBASKET;SPIRAL NOTE PAD;
     SPIRAL CALENDAR PAD;DESKTOP WINDOW;MINIMIZE;MAXIMIZE;OVERLAP;
     CLOCKWISE RIGHT AND LEFT SEMICIRCLE ARROWS;CANCELLATION X;INCREASE FONT SIZE SYMBOL;
     DECREASE FONT SIZE SYMBOL;COMPRESSION;OLD KEY;ROLLED-UP NEWSPAPER;PAGE WITH CIRCLED TEXT;
     STOCK CHART;DAGGER KNIFE;LIPS;SPEAKING HEAD IN SILHOUETTE;THREE RAYS ABOVE;THREE RAYS BELOW;
     THREE RAYS LEFT;THREE RAYS RIGHT;LEFT SPEECH BUBBLE;RIGHT SPEECH BUBBLE;TWO SPEECH BUBBLES;
     THREE SPEECH BUBBLES;LEFT THOUGHT BUBBLE;RIGHT THOUGHT BUBBLE;LEFT ANGER BUBBLE;
     RIGHT ANGER BUBBLE;MOOD BUBBLE;LIGHTNING MOOD BUBBLE;LIGHTNING MOOD;BALLOT BOX WITH BALLOT;
     BALLOT SCRIPT X;BALLOT BOX WITH SCRIPT X;BALLOT BOLD SCRIPT X;BALLOT BOX WITH BOLD SCRIPT X;
     LIGHT CHECK MARK;BALLOT BOX WITH BOLD CHECK;WORLD MAP;MOUNT FUJI;TOKYO TOWER;
     STATUE OF LIBERTY;SILHOUETTE OF JAPAN;MOYAI;GRINNING FACE;GRINNING FACE WITH SMILING EYES;
     FACE WITH TEARS OF JOY;SMILING FACE WITH OPEN MOUTH;
     SMILING FACE WITH OPEN MOUTH AND SMILING EYES;SMILING FACE WITH OPEN MOUTH AND COLD SWEAT;
     SMILING FACE WITH OPEN MOUTH AND TIGHTLY-CLOSED EYES;SMILING FACE WITH HALO;
     SMILING FACE WITH HORNS;WINKING FACE;SMILING FACE WITH SMILING EYES;
     FACE SAVOURING DELICIOUS FOOD;RELIEVED FACE;SMILING FACE WITH HEART-SHAPED EYES;
     SMILING FACE WITH SUNGLASSES;SMIRKING FACE;NEUTRAL FACE;EXPRESSIONLESS FACE;UNAMUSED FACE;
     FACE WITH COLD SWEAT;PENSIVE FACE;CONFUSED FACE;CONFOUNDED FACE;KISSING FACE;
     FACE THROWING A KISS;KISSING FACE WITH SMILING EYES;KISSING FACE WITH CLOSED EYES;
     FACE WITH STUCK-OUT TONGUE;FACE WITH STUCK-OUT TONGUE AND WINKING EYE;
     FACE WITH STUCK-OUT TONGUE AND TIGHTLY-CLOSED EYES;DISAPPOINTED FACE;WORRIED FACE;ANGRY FACE;
     POUTING FACE;CRYING FACE;PERSEVERING FACE;FACE WITH LOOK OF TRIUMPH;
     DISAPPOINTED BUT RELIEVED FACE;FROWNING FACE WITH OPEN MOUTH;ANGUISHED FACE;FEARFUL FACE;
     WEARY FACE;SLEEPY FACE;TIRED FACE;GRIMACING FACE;LOUDLY CRYING FACE;FACE WITH OPEN MOUTH;
     HUSHED FACE;FACE WITH OPEN MOUTH AND COLD SWEAT;FACE SCREAMING IN FEAR;ASTONISHED FACE;
     FLUSHED FACE;SLEEPING FACE;DIZZY FACE;FACE WITHOUT MOUTH;FACE WITH MEDICAL MASK;
     GRINNING CAT FACE WITH SMILING EYES;CAT FACE WITH TEARS OF JOY;
     SMILING CAT FACE WITH OPEN MOUTH;SMILING CAT FACE WITH HEART-SHAPED EYES;
     CAT FACE WITH WRY SMILE;KISSING CAT FACE WITH CLOSED EYES;POUTING CAT FACE;CRYING CAT FACE;
     WEARY CAT FACE;SLIGHTLY FROWNING FACE;SLIGHTLY SMILING FACE;UPSIDE-DOWN FACE;
     FACE WITH ROLLING EYES;FACE WITH NO GOOD GESTURE;FACE WITH OK GESTURE;PERSON BOWING DEEPLY;
     SEE-NO-EVIL MONKEY;HEAR-NO-EVIL MONKEY;SPEAK-NO-EVIL MONKEY;HAPPY PERSON RAISING ONE HAND;
     PERSON RAISING BOTH HANDS IN CELEBRATION;PERSON FROWNING;PERSON WITH POUTING FACE;
     PERSON WITH FOLDED HANDS")
]

/-- Further names, mostly of characters that have no glyph. -/
def otherNames : List (String × Nat) :=
  [("NULL", 0x0), ("NUL", 0x0), ("ALERT", 0x7), ("BEL", 0x7), ("BACKSPACE", 0x8), ("BS", 0x8),
    ("CHARACTER TABULATION", 0x9), ("HORIZONTAL TABULATION", 0x9), ("HT", 0x9), ("TAB", 0x9),
    ("LINE FEED", 0xa), ("NEW LINE", 0xa), ("END OF LINE", 0xa), ("LF", 0xa), ("NL", 0xa),
    ("EOL", 0xa), ("LINE TABULATION", 0xb), ("VERTICAL TABULATION", 0xb), ("VT", 0xb),
    ("FORM FEED", 0xc), ("FF", 0xc), ("CARRIAGE RETURN", 0xd), ("CR", 0xd), ("ESCAPE", 0x1b),
    ("ESC", 0x1b), ("SP", 0x20), ("DELETE", 0x7f), ("DEL", 0x7f), ("NEXT LINE", 0x85),
    ("NEL", 0x85), ("NBSP", 0xa0), ("SHY", 0xad), ("ZWSP", 0x200b), ("ZWNJ", 0x200c),
    ("ZWJ", 0x200d), ("LRM", 0x200e), ("RLM", 0x200f), ("LINE SEPARATOR", 0x2028),
    ("PARAGRAPH SEPARATOR", 0x2029), ("BYTE ORDER MARK", 0xfeff), ("BOM", 0xfeff),
    ("ZERO WIDTH NO-BREAK SPACE", 0xfeff), ("REPLACEMENT CHARACTER", 0xfffd),
    ("LATIN CAPITAL LETTER GHA", 0x1a2), ("WEIERSTRASS ELLIPTIC FUNCTION", 0x2118)]

/-- A name as the table has it. -/
def nameForm (name : String) : String := name.trimAscii.toString.toUpper

/-- The code point of the character of a name, in a run of names. -/
def inRun? (name : String) (run : Nat × String) : Option Nat :=
  ((run.2.splitOn ";").findIdx? fun n => nameForm n = name).map (run.1 + ·)

/-- The code point of the character of a name, for the names in the table. -/
def characterNamed? (name : String) : Option Nat :=
  (nameRuns.findSome? (inRun? name.toUpper)).or (otherNames.lookup name.toUpper)

end Conform.Text
