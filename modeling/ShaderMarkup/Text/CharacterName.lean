import ShaderMarkup.Text.Basic

/-!
# Names of characters

The names that the Unicode standard gives to control characters, to the characters of ASCII, of the
Latin, Greek and Cyrillic blocks, and to punctuation, signs, symbols, shapes and faces.

The table is partial.  It serves a single escape of search patterns, which names a character, and a
name of any other block is taken for undefined there (`namedPoint?`).
-/

namespace ShaderMarkup

/-- The names of control characters and the short names of spaces. -/
def controlNames : List (String × Nat) :=
  [("NULL", 0), ("NUL", 0), ("START OF HEADING", 1), ("SOH", 1), ("START OF TEXT", 2), ("STX", 2),
   ("END OF TEXT", 3), ("ETX", 3), ("END OF TRANSMISSION", 4), ("EOT", 4), ("ENQUIRY", 5),
   ("ENQ", 5), ("ACKNOWLEDGE", 6), ("ACK", 6), ("ALERT", 7), ("BEL", 7), ("BACKSPACE", 8),
   ("BS", 8), ("CHARACTER TABULATION", 9), ("HORIZONTAL TABULATION", 9), ("HT", 9), ("TAB", 9),
   ("LINE FEED", 10), ("NEW LINE", 10), ("END OF LINE", 10), ("LF", 10), ("NL", 10), ("EOL", 10),
   ("LINE TABULATION", 11), ("VERTICAL TABULATION", 11), ("VT", 11), ("FORM FEED", 12), ("FF", 12),
   ("CARRIAGE RETURN", 13), ("CR", 13), ("SHIFT OUT", 14), ("LOCKING-SHIFT ONE", 14), ("SO", 14),
   ("SHIFT IN", 15), ("LOCKING-SHIFT ZERO", 15), ("SI", 15), ("DATA LINK ESCAPE", 16), ("DLE", 16),
   ("DEVICE CONTROL ONE", 17), ("DC1", 17), ("DEVICE CONTROL TWO", 18), ("DC2", 18),
   ("DEVICE CONTROL THREE", 19), ("DC3", 19), ("DEVICE CONTROL FOUR", 20), ("DC4", 20),
   ("NEGATIVE ACKNOWLEDGE", 21), ("NAK", 21), ("SYNCHRONOUS IDLE", 22), ("SYN", 22),
   ("END OF TRANSMISSION BLOCK", 23), ("ETB", 23), ("CANCEL", 24), ("CAN", 24),
   ("END OF MEDIUM", 25), ("EOM", 25), ("SUBSTITUTE", 26), ("SUB", 26), ("ESCAPE", 27),
   ("ESC", 27), ("INFORMATION SEPARATOR FOUR", 28), ("FILE SEPARATOR", 28), ("FS", 28),
   ("INFORMATION SEPARATOR THREE", 29), ("GROUP SEPARATOR", 29), ("GS", 29),
   ("INFORMATION SEPARATOR TWO", 30), ("RECORD SEPARATOR", 30), ("RS", 30),
   ("INFORMATION SEPARATOR ONE", 31), ("UNIT SEPARATOR", 31), ("US", 31), ("SP", 32),
   ("DELETE", 127), ("DEL", 127), ("NEXT LINE", 133), ("NEL", 133), ("NBSP", 160), ("SHY", 173),
   ("ZWSP", 8203), ("ZWNJ", 8204), ("ZWJ", 8205), ("BYTE ORDER MARK", 65279), ("BOM", 65279),
   ("ZWNBSP", 65279)]

/-- The names of ASCII characters. -/
def basicNames : List (String × Nat) :=
  [("SPACE", 32), ("EXCLAMATION MARK", 33), ("QUOTATION MARK", 34), ("NUMBER SIGN", 35),
   ("DOLLAR SIGN", 36), ("PERCENT SIGN", 37), ("AMPERSAND", 38), ("APOSTROPHE", 39),
   ("LEFT PARENTHESIS", 40), ("RIGHT PARENTHESIS", 41), ("ASTERISK", 42), ("PLUS SIGN", 43),
   ("COMMA", 44), ("HYPHEN-MINUS", 45), ("FULL STOP", 46), ("SOLIDUS", 47), ("DIGIT ZERO", 48),
   ("DIGIT ONE", 49), ("DIGIT TWO", 50), ("DIGIT THREE", 51), ("DIGIT FOUR", 52),
   ("DIGIT FIVE", 53), ("DIGIT SIX", 54), ("DIGIT SEVEN", 55), ("DIGIT EIGHT", 56),
   ("DIGIT NINE", 57), ("COLON", 58), ("SEMICOLON", 59), ("LESS-THAN SIGN", 60),
   ("EQUALS SIGN", 61), ("GREATER-THAN SIGN", 62), ("QUESTION MARK", 63), ("COMMERCIAL AT", 64),
   ("LATIN CAPITAL LETTER A", 65), ("LATIN CAPITAL LETTER B", 66), ("LATIN CAPITAL LETTER C", 67),
   ("LATIN CAPITAL LETTER D", 68), ("LATIN CAPITAL LETTER E", 69), ("LATIN CAPITAL LETTER F", 70),
   ("LATIN CAPITAL LETTER G", 71), ("LATIN CAPITAL LETTER H", 72), ("LATIN CAPITAL LETTER I", 73),
   ("LATIN CAPITAL LETTER J", 74), ("LATIN CAPITAL LETTER K", 75), ("LATIN CAPITAL LETTER L", 76),
   ("LATIN CAPITAL LETTER M", 77), ("LATIN CAPITAL LETTER N", 78), ("LATIN CAPITAL LETTER O", 79),
   ("LATIN CAPITAL LETTER P", 80), ("LATIN CAPITAL LETTER Q", 81), ("LATIN CAPITAL LETTER R", 82),
   ("LATIN CAPITAL LETTER S", 83), ("LATIN CAPITAL LETTER T", 84), ("LATIN CAPITAL LETTER U", 85),
   ("LATIN CAPITAL LETTER V", 86), ("LATIN CAPITAL LETTER W", 87), ("LATIN CAPITAL LETTER X", 88),
   ("LATIN CAPITAL LETTER Y", 89), ("LATIN CAPITAL LETTER Z", 90), ("LEFT SQUARE BRACKET", 91),
   ("REVERSE SOLIDUS", 92), ("RIGHT SQUARE BRACKET", 93), ("CIRCUMFLEX ACCENT", 94),
   ("LOW LINE", 95), ("GRAVE ACCENT", 96), ("LATIN SMALL LETTER A", 97),
   ("LATIN SMALL LETTER B", 98), ("LATIN SMALL LETTER C", 99), ("LATIN SMALL LETTER D", 100),
   ("LATIN SMALL LETTER E", 101), ("LATIN SMALL LETTER F", 102), ("LATIN SMALL LETTER G", 103),
   ("LATIN SMALL LETTER H", 104), ("LATIN SMALL LETTER I", 105), ("LATIN SMALL LETTER J", 106),
   ("LATIN SMALL LETTER K", 107), ("LATIN SMALL LETTER L", 108), ("LATIN SMALL LETTER M", 109),
   ("LATIN SMALL LETTER N", 110), ("LATIN SMALL LETTER O", 111), ("LATIN SMALL LETTER P", 112),
   ("LATIN SMALL LETTER Q", 113), ("LATIN SMALL LETTER R", 114), ("LATIN SMALL LETTER S", 115),
   ("LATIN SMALL LETTER T", 116), ("LATIN SMALL LETTER U", 117), ("LATIN SMALL LETTER V", 118),
   ("LATIN SMALL LETTER W", 119), ("LATIN SMALL LETTER X", 120), ("LATIN SMALL LETTER Y", 121),
   ("LATIN SMALL LETTER Z", 122), ("LEFT CURLY BRACKET", 123), ("VERTICAL LINE", 124),
   ("RIGHT CURLY BRACKET", 125), ("TILDE", 126)]

/-- The names of Latin letters and signs. -/
def latinNames : List (String × Nat) :=
  [("NO-BREAK SPACE", 160), ("INVERTED EXCLAMATION MARK", 161), ("CENT SIGN", 162),
   ("POUND SIGN", 163), ("CURRENCY SIGN", 164), ("YEN SIGN", 165), ("BROKEN BAR", 166),
   ("SECTION SIGN", 167), ("DIAERESIS", 168), ("COPYRIGHT SIGN", 169),
   ("FEMININE ORDINAL INDICATOR", 170), ("LEFT-POINTING DOUBLE ANGLE QUOTATION MARK", 171),
   ("NOT SIGN", 172), ("SOFT HYPHEN", 173), ("REGISTERED SIGN", 174), ("MACRON", 175),
   ("DEGREE SIGN", 176), ("PLUS-MINUS SIGN", 177), ("SUPERSCRIPT TWO", 178),
   ("SUPERSCRIPT THREE", 179), ("ACUTE ACCENT", 180), ("MICRO SIGN", 181), ("PILCROW SIGN", 182),
   ("MIDDLE DOT", 183), ("CEDILLA", 184), ("SUPERSCRIPT ONE", 185),
   ("MASCULINE ORDINAL INDICATOR", 186), ("RIGHT-POINTING DOUBLE ANGLE QUOTATION MARK", 187),
   ("VULGAR FRACTION ONE QUARTER", 188), ("VULGAR FRACTION ONE HALF", 189),
   ("VULGAR FRACTION THREE QUARTERS", 190), ("INVERTED QUESTION MARK", 191),
   ("LATIN CAPITAL LETTER A WITH GRAVE", 192), ("LATIN CAPITAL LETTER A WITH ACUTE", 193),
   ("LATIN CAPITAL LETTER A WITH CIRCUMFLEX", 194), ("LATIN CAPITAL LETTER A WITH TILDE", 195),
   ("LATIN CAPITAL LETTER A WITH DIAERESIS", 196), ("LATIN CAPITAL LETTER A WITH RING ABOVE", 197),
   ("LATIN CAPITAL LETTER AE", 198), ("LATIN CAPITAL LETTER C WITH CEDILLA", 199),
   ("LATIN CAPITAL LETTER E WITH GRAVE", 200), ("LATIN CAPITAL LETTER E WITH ACUTE", 201),
   ("LATIN CAPITAL LETTER E WITH CIRCUMFLEX", 202), ("LATIN CAPITAL LETTER E WITH DIAERESIS", 203),
   ("LATIN CAPITAL LETTER I WITH GRAVE", 204), ("LATIN CAPITAL LETTER I WITH ACUTE", 205),
   ("LATIN CAPITAL LETTER I WITH CIRCUMFLEX", 206), ("LATIN CAPITAL LETTER I WITH DIAERESIS", 207),
   ("LATIN CAPITAL LETTER ETH", 208), ("LATIN CAPITAL LETTER N WITH TILDE", 209),
   ("LATIN CAPITAL LETTER O WITH GRAVE", 210), ("LATIN CAPITAL LETTER O WITH ACUTE", 211),
   ("LATIN CAPITAL LETTER O WITH CIRCUMFLEX", 212), ("LATIN CAPITAL LETTER O WITH TILDE", 213),
   ("LATIN CAPITAL LETTER O WITH DIAERESIS", 214), ("MULTIPLICATION SIGN", 215),
   ("LATIN CAPITAL LETTER O WITH STROKE", 216), ("LATIN CAPITAL LETTER U WITH GRAVE", 217),
   ("LATIN CAPITAL LETTER U WITH ACUTE", 218), ("LATIN CAPITAL LETTER U WITH CIRCUMFLEX", 219),
   ("LATIN CAPITAL LETTER U WITH DIAERESIS", 220), ("LATIN CAPITAL LETTER Y WITH ACUTE", 221),
   ("LATIN CAPITAL LETTER THORN", 222), ("LATIN SMALL LETTER SHARP S", 223),
   ("LATIN SMALL LETTER A WITH GRAVE", 224), ("LATIN SMALL LETTER A WITH ACUTE", 225),
   ("LATIN SMALL LETTER A WITH CIRCUMFLEX", 226), ("LATIN SMALL LETTER A WITH TILDE", 227),
   ("LATIN SMALL LETTER A WITH DIAERESIS", 228), ("LATIN SMALL LETTER A WITH RING ABOVE", 229),
   ("LATIN SMALL LETTER AE", 230), ("LATIN SMALL LETTER C WITH CEDILLA", 231),
   ("LATIN SMALL LETTER E WITH GRAVE", 232), ("LATIN SMALL LETTER E WITH ACUTE", 233),
   ("LATIN SMALL LETTER E WITH CIRCUMFLEX", 234), ("LATIN SMALL LETTER E WITH DIAERESIS", 235),
   ("LATIN SMALL LETTER I WITH GRAVE", 236), ("LATIN SMALL LETTER I WITH ACUTE", 237),
   ("LATIN SMALL LETTER I WITH CIRCUMFLEX", 238), ("LATIN SMALL LETTER I WITH DIAERESIS", 239),
   ("LATIN SMALL LETTER ETH", 240), ("LATIN SMALL LETTER N WITH TILDE", 241),
   ("LATIN SMALL LETTER O WITH GRAVE", 242), ("LATIN SMALL LETTER O WITH ACUTE", 243),
   ("LATIN SMALL LETTER O WITH CIRCUMFLEX", 244), ("LATIN SMALL LETTER O WITH TILDE", 245),
   ("LATIN SMALL LETTER O WITH DIAERESIS", 246), ("DIVISION SIGN", 247),
   ("LATIN SMALL LETTER O WITH STROKE", 248), ("LATIN SMALL LETTER U WITH GRAVE", 249),
   ("LATIN SMALL LETTER U WITH ACUTE", 250), ("LATIN SMALL LETTER U WITH CIRCUMFLEX", 251),
   ("LATIN SMALL LETTER U WITH DIAERESIS", 252), ("LATIN SMALL LETTER Y WITH ACUTE", 253),
   ("LATIN SMALL LETTER THORN", 254), ("LATIN SMALL LETTER Y WITH DIAERESIS", 255),
   ("LATIN CAPITAL LETTER A WITH MACRON", 256), ("LATIN SMALL LETTER A WITH MACRON", 257),
   ("LATIN CAPITAL LETTER A WITH BREVE", 258), ("LATIN SMALL LETTER A WITH BREVE", 259),
   ("LATIN CAPITAL LETTER A WITH OGONEK", 260), ("LATIN SMALL LETTER A WITH OGONEK", 261),
   ("LATIN CAPITAL LETTER C WITH ACUTE", 262), ("LATIN SMALL LETTER C WITH ACUTE", 263),
   ("LATIN CAPITAL LETTER C WITH CIRCUMFLEX", 264), ("LATIN SMALL LETTER C WITH CIRCUMFLEX", 265),
   ("LATIN CAPITAL LETTER C WITH DOT ABOVE", 266), ("LATIN SMALL LETTER C WITH DOT ABOVE", 267),
   ("LATIN CAPITAL LETTER C WITH CARON", 268), ("LATIN SMALL LETTER C WITH CARON", 269),
   ("LATIN CAPITAL LETTER D WITH CARON", 270), ("LATIN SMALL LETTER D WITH CARON", 271),
   ("LATIN CAPITAL LETTER D WITH STROKE", 272), ("LATIN SMALL LETTER D WITH STROKE", 273),
   ("LATIN CAPITAL LETTER E WITH MACRON", 274), ("LATIN SMALL LETTER E WITH MACRON", 275),
   ("LATIN CAPITAL LETTER E WITH BREVE", 276), ("LATIN SMALL LETTER E WITH BREVE", 277),
   ("LATIN CAPITAL LETTER E WITH DOT ABOVE", 278), ("LATIN SMALL LETTER E WITH DOT ABOVE", 279),
   ("LATIN CAPITAL LETTER E WITH OGONEK", 280), ("LATIN SMALL LETTER E WITH OGONEK", 281),
   ("LATIN CAPITAL LETTER E WITH CARON", 282), ("LATIN SMALL LETTER E WITH CARON", 283),
   ("LATIN CAPITAL LETTER G WITH CIRCUMFLEX", 284), ("LATIN SMALL LETTER G WITH CIRCUMFLEX", 285),
   ("LATIN CAPITAL LETTER G WITH BREVE", 286), ("LATIN SMALL LETTER G WITH BREVE", 287),
   ("LATIN CAPITAL LETTER G WITH DOT ABOVE", 288), ("LATIN SMALL LETTER G WITH DOT ABOVE", 289),
   ("LATIN CAPITAL LETTER G WITH CEDILLA", 290), ("LATIN SMALL LETTER G WITH CEDILLA", 291),
   ("LATIN CAPITAL LETTER H WITH CIRCUMFLEX", 292), ("LATIN SMALL LETTER H WITH CIRCUMFLEX", 293),
   ("LATIN CAPITAL LETTER H WITH STROKE", 294), ("LATIN SMALL LETTER H WITH STROKE", 295),
   ("LATIN CAPITAL LETTER I WITH TILDE", 296), ("LATIN SMALL LETTER I WITH TILDE", 297),
   ("LATIN CAPITAL LETTER I WITH MACRON", 298), ("LATIN SMALL LETTER I WITH MACRON", 299),
   ("LATIN CAPITAL LETTER I WITH BREVE", 300), ("LATIN SMALL LETTER I WITH BREVE", 301),
   ("LATIN CAPITAL LETTER I WITH OGONEK", 302), ("LATIN SMALL LETTER I WITH OGONEK", 303),
   ("LATIN CAPITAL LETTER I WITH DOT ABOVE", 304), ("LATIN SMALL LETTER DOTLESS I", 305),
   ("LATIN CAPITAL LIGATURE IJ", 306), ("LATIN SMALL LIGATURE IJ", 307),
   ("LATIN CAPITAL LETTER J WITH CIRCUMFLEX", 308), ("LATIN SMALL LETTER J WITH CIRCUMFLEX", 309),
   ("LATIN CAPITAL LETTER K WITH CEDILLA", 310), ("LATIN SMALL LETTER K WITH CEDILLA", 311),
   ("LATIN SMALL LETTER KRA", 312), ("LATIN CAPITAL LETTER L WITH ACUTE", 313),
   ("LATIN SMALL LETTER L WITH ACUTE", 314), ("LATIN CAPITAL LETTER L WITH CEDILLA", 315),
   ("LATIN SMALL LETTER L WITH CEDILLA", 316), ("LATIN CAPITAL LETTER L WITH CARON", 317),
   ("LATIN SMALL LETTER L WITH CARON", 318), ("LATIN CAPITAL LETTER L WITH MIDDLE DOT", 319),
   ("LATIN SMALL LETTER L WITH MIDDLE DOT", 320), ("LATIN CAPITAL LETTER L WITH STROKE", 321),
   ("LATIN SMALL LETTER L WITH STROKE", 322), ("LATIN CAPITAL LETTER N WITH ACUTE", 323),
   ("LATIN SMALL LETTER N WITH ACUTE", 324), ("LATIN CAPITAL LETTER N WITH CEDILLA", 325),
   ("LATIN SMALL LETTER N WITH CEDILLA", 326), ("LATIN CAPITAL LETTER N WITH CARON", 327),
   ("LATIN SMALL LETTER N WITH CARON", 328), ("LATIN SMALL LETTER N PRECEDED BY APOSTROPHE", 329),
   ("LATIN CAPITAL LETTER ENG", 330), ("LATIN SMALL LETTER ENG", 331),
   ("LATIN CAPITAL LETTER O WITH MACRON", 332), ("LATIN SMALL LETTER O WITH MACRON", 333),
   ("LATIN CAPITAL LETTER O WITH BREVE", 334), ("LATIN SMALL LETTER O WITH BREVE", 335),
   ("LATIN CAPITAL LETTER O WITH DOUBLE ACUTE", 336),
   ("LATIN SMALL LETTER O WITH DOUBLE ACUTE", 337), ("LATIN CAPITAL LIGATURE OE", 338),
   ("LATIN SMALL LIGATURE OE", 339), ("LATIN CAPITAL LETTER R WITH ACUTE", 340),
   ("LATIN SMALL LETTER R WITH ACUTE", 341), ("LATIN CAPITAL LETTER R WITH CEDILLA", 342),
   ("LATIN SMALL LETTER R WITH CEDILLA", 343), ("LATIN CAPITAL LETTER R WITH CARON", 344),
   ("LATIN SMALL LETTER R WITH CARON", 345), ("LATIN CAPITAL LETTER S WITH ACUTE", 346),
   ("LATIN SMALL LETTER S WITH ACUTE", 347), ("LATIN CAPITAL LETTER S WITH CIRCUMFLEX", 348),
   ("LATIN SMALL LETTER S WITH CIRCUMFLEX", 349), ("LATIN CAPITAL LETTER S WITH CEDILLA", 350),
   ("LATIN SMALL LETTER S WITH CEDILLA", 351), ("LATIN CAPITAL LETTER S WITH CARON", 352),
   ("LATIN SMALL LETTER S WITH CARON", 353), ("LATIN CAPITAL LETTER T WITH CEDILLA", 354),
   ("LATIN SMALL LETTER T WITH CEDILLA", 355), ("LATIN CAPITAL LETTER T WITH CARON", 356),
   ("LATIN SMALL LETTER T WITH CARON", 357), ("LATIN CAPITAL LETTER T WITH STROKE", 358),
   ("LATIN SMALL LETTER T WITH STROKE", 359), ("LATIN CAPITAL LETTER U WITH TILDE", 360),
   ("LATIN SMALL LETTER U WITH TILDE", 361), ("LATIN CAPITAL LETTER U WITH MACRON", 362),
   ("LATIN SMALL LETTER U WITH MACRON", 363), ("LATIN CAPITAL LETTER U WITH BREVE", 364),
   ("LATIN SMALL LETTER U WITH BREVE", 365), ("LATIN CAPITAL LETTER U WITH RING ABOVE", 366),
   ("LATIN SMALL LETTER U WITH RING ABOVE", 367),
   ("LATIN CAPITAL LETTER U WITH DOUBLE ACUTE", 368),
   ("LATIN SMALL LETTER U WITH DOUBLE ACUTE", 369), ("LATIN CAPITAL LETTER U WITH OGONEK", 370),
   ("LATIN SMALL LETTER U WITH OGONEK", 371), ("LATIN CAPITAL LETTER W WITH CIRCUMFLEX", 372),
   ("LATIN SMALL LETTER W WITH CIRCUMFLEX", 373), ("LATIN CAPITAL LETTER Y WITH CIRCUMFLEX", 374),
   ("LATIN SMALL LETTER Y WITH CIRCUMFLEX", 375), ("LATIN CAPITAL LETTER Y WITH DIAERESIS", 376),
   ("LATIN CAPITAL LETTER Z WITH ACUTE", 377), ("LATIN SMALL LETTER Z WITH ACUTE", 378),
   ("LATIN CAPITAL LETTER Z WITH DOT ABOVE", 379), ("LATIN SMALL LETTER Z WITH DOT ABOVE", 380),
   ("LATIN CAPITAL LETTER Z WITH CARON", 381), ("LATIN SMALL LETTER Z WITH CARON", 382),
   ("LATIN SMALL LETTER LONG S", 383), ("LATIN SMALL LETTER B WITH STROKE", 384),
   ("LATIN CAPITAL LETTER B WITH HOOK", 385), ("LATIN CAPITAL LETTER B WITH TOPBAR", 386),
   ("LATIN SMALL LETTER B WITH TOPBAR", 387), ("LATIN CAPITAL LETTER TONE SIX", 388),
   ("LATIN SMALL LETTER TONE SIX", 389), ("LATIN CAPITAL LETTER OPEN O", 390),
   ("LATIN CAPITAL LETTER C WITH HOOK", 391), ("LATIN SMALL LETTER C WITH HOOK", 392),
   ("LATIN CAPITAL LETTER AFRICAN D", 393), ("LATIN CAPITAL LETTER D WITH HOOK", 394),
   ("LATIN CAPITAL LETTER D WITH TOPBAR", 395), ("LATIN SMALL LETTER D WITH TOPBAR", 396),
   ("LATIN SMALL LETTER TURNED DELTA", 397), ("LATIN CAPITAL LETTER REVERSED E", 398),
   ("LATIN CAPITAL LETTER SCHWA", 399), ("LATIN CAPITAL LETTER OPEN E", 400),
   ("LATIN CAPITAL LETTER F WITH HOOK", 401), ("LATIN SMALL LETTER F WITH HOOK", 402),
   ("LATIN CAPITAL LETTER G WITH HOOK", 403), ("LATIN CAPITAL LETTER GAMMA", 404),
   ("LATIN SMALL LETTER HV", 405), ("LATIN CAPITAL LETTER IOTA", 406),
   ("LATIN CAPITAL LETTER I WITH STROKE", 407), ("LATIN CAPITAL LETTER K WITH HOOK", 408),
   ("LATIN SMALL LETTER K WITH HOOK", 409), ("LATIN SMALL LETTER L WITH BAR", 410),
   ("LATIN SMALL LETTER LAMBDA WITH STROKE", 411), ("LATIN CAPITAL LETTER TURNED M", 412),
   ("LATIN CAPITAL LETTER N WITH LEFT HOOK", 413),
   ("LATIN SMALL LETTER N WITH LONG RIGHT LEG", 414),
   ("LATIN CAPITAL LETTER O WITH MIDDLE TILDE", 415), ("LATIN CAPITAL LETTER O WITH HORN", 416),
   ("LATIN SMALL LETTER O WITH HORN", 417), ("LATIN CAPITAL LETTER OI", 418),
   ("LATIN SMALL LETTER OI", 419), ("LATIN CAPITAL LETTER P WITH HOOK", 420),
   ("LATIN SMALL LETTER P WITH HOOK", 421), ("LATIN LETTER YR", 422),
   ("LATIN CAPITAL LETTER TONE TWO", 423), ("LATIN SMALL LETTER TONE TWO", 424),
   ("LATIN CAPITAL LETTER ESH", 425), ("LATIN LETTER REVERSED ESH LOOP", 426),
   ("LATIN SMALL LETTER T WITH PALATAL HOOK", 427), ("LATIN CAPITAL LETTER T WITH HOOK", 428),
   ("LATIN SMALL LETTER T WITH HOOK", 429), ("LATIN CAPITAL LETTER T WITH RETROFLEX HOOK", 430),
   ("LATIN CAPITAL LETTER U WITH HORN", 431), ("LATIN SMALL LETTER U WITH HORN", 432),
   ("LATIN CAPITAL LETTER UPSILON", 433), ("LATIN CAPITAL LETTER V WITH HOOK", 434),
   ("LATIN CAPITAL LETTER Y WITH HOOK", 435), ("LATIN SMALL LETTER Y WITH HOOK", 436),
   ("LATIN CAPITAL LETTER Z WITH STROKE", 437), ("LATIN SMALL LETTER Z WITH STROKE", 438),
   ("LATIN CAPITAL LETTER EZH", 439), ("LATIN CAPITAL LETTER EZH REVERSED", 440),
   ("LATIN SMALL LETTER EZH REVERSED", 441), ("LATIN SMALL LETTER EZH WITH TAIL", 442),
   ("LATIN LETTER TWO WITH STROKE", 443), ("LATIN CAPITAL LETTER TONE FIVE", 444),
   ("LATIN SMALL LETTER TONE FIVE", 445), ("LATIN LETTER INVERTED GLOTTAL STOP WITH STROKE", 446),
   ("LATIN LETTER WYNN", 447), ("LATIN LETTER DENTAL CLICK", 448),
   ("LATIN LETTER LATERAL CLICK", 449), ("LATIN LETTER ALVEOLAR CLICK", 450),
   ("LATIN LETTER RETROFLEX CLICK", 451), ("LATIN CAPITAL LETTER DZ WITH CARON", 452),
   ("LATIN CAPITAL LETTER D WITH SMALL LETTER Z WITH CARON", 453),
   ("LATIN SMALL LETTER DZ WITH CARON", 454), ("LATIN CAPITAL LETTER LJ", 455),
   ("LATIN CAPITAL LETTER L WITH SMALL LETTER J", 456), ("LATIN SMALL LETTER LJ", 457),
   ("LATIN CAPITAL LETTER NJ", 458), ("LATIN CAPITAL LETTER N WITH SMALL LETTER J", 459),
   ("LATIN SMALL LETTER NJ", 460), ("LATIN CAPITAL LETTER A WITH CARON", 461),
   ("LATIN SMALL LETTER A WITH CARON", 462), ("LATIN CAPITAL LETTER I WITH CARON", 463),
   ("LATIN SMALL LETTER I WITH CARON", 464), ("LATIN CAPITAL LETTER O WITH CARON", 465),
   ("LATIN SMALL LETTER O WITH CARON", 466), ("LATIN CAPITAL LETTER U WITH CARON", 467),
   ("LATIN SMALL LETTER U WITH CARON", 468),
   ("LATIN CAPITAL LETTER U WITH DIAERESIS AND MACRON", 469),
   ("LATIN SMALL LETTER U WITH DIAERESIS AND MACRON", 470),
   ("LATIN CAPITAL LETTER U WITH DIAERESIS AND ACUTE", 471),
   ("LATIN SMALL LETTER U WITH DIAERESIS AND ACUTE", 472),
   ("LATIN CAPITAL LETTER U WITH DIAERESIS AND CARON", 473),
   ("LATIN SMALL LETTER U WITH DIAERESIS AND CARON", 474),
   ("LATIN CAPITAL LETTER U WITH DIAERESIS AND GRAVE", 475),
   ("LATIN SMALL LETTER U WITH DIAERESIS AND GRAVE", 476), ("LATIN SMALL LETTER TURNED E", 477),
   ("LATIN CAPITAL LETTER A WITH DIAERESIS AND MACRON", 478),
   ("LATIN SMALL LETTER A WITH DIAERESIS AND MACRON", 479),
   ("LATIN CAPITAL LETTER A WITH DOT ABOVE AND MACRON", 480),
   ("LATIN SMALL LETTER A WITH DOT ABOVE AND MACRON", 481),
   ("LATIN CAPITAL LETTER AE WITH MACRON", 482), ("LATIN SMALL LETTER AE WITH MACRON", 483),
   ("LATIN CAPITAL LETTER G WITH STROKE", 484), ("LATIN SMALL LETTER G WITH STROKE", 485),
   ("LATIN CAPITAL LETTER G WITH CARON", 486), ("LATIN SMALL LETTER G WITH CARON", 487),
   ("LATIN CAPITAL LETTER K WITH CARON", 488), ("LATIN SMALL LETTER K WITH CARON", 489),
   ("LATIN CAPITAL LETTER O WITH OGONEK", 490), ("LATIN SMALL LETTER O WITH OGONEK", 491),
   ("LATIN CAPITAL LETTER O WITH OGONEK AND MACRON", 492),
   ("LATIN SMALL LETTER O WITH OGONEK AND MACRON", 493),
   ("LATIN CAPITAL LETTER EZH WITH CARON", 494), ("LATIN SMALL LETTER EZH WITH CARON", 495),
   ("LATIN SMALL LETTER J WITH CARON", 496), ("LATIN CAPITAL LETTER DZ", 497),
   ("LATIN CAPITAL LETTER D WITH SMALL LETTER Z", 498), ("LATIN SMALL LETTER DZ", 499),
   ("LATIN CAPITAL LETTER G WITH ACUTE", 500), ("LATIN SMALL LETTER G WITH ACUTE", 501),
   ("LATIN CAPITAL LETTER HWAIR", 502), ("LATIN CAPITAL LETTER WYNN", 503),
   ("LATIN CAPITAL LETTER N WITH GRAVE", 504), ("LATIN SMALL LETTER N WITH GRAVE", 505),
   ("LATIN CAPITAL LETTER A WITH RING ABOVE AND ACUTE", 506),
   ("LATIN SMALL LETTER A WITH RING ABOVE AND ACUTE", 507),
   ("LATIN CAPITAL LETTER AE WITH ACUTE", 508), ("LATIN SMALL LETTER AE WITH ACUTE", 509),
   ("LATIN CAPITAL LETTER O WITH STROKE AND ACUTE", 510),
   ("LATIN SMALL LETTER O WITH STROKE AND ACUTE", 511),
   ("LATIN CAPITAL LETTER A WITH DOUBLE GRAVE", 512),
   ("LATIN SMALL LETTER A WITH DOUBLE GRAVE", 513),
   ("LATIN CAPITAL LETTER A WITH INVERTED BREVE", 514),
   ("LATIN SMALL LETTER A WITH INVERTED BREVE", 515),
   ("LATIN CAPITAL LETTER E WITH DOUBLE GRAVE", 516),
   ("LATIN SMALL LETTER E WITH DOUBLE GRAVE", 517),
   ("LATIN CAPITAL LETTER E WITH INVERTED BREVE", 518),
   ("LATIN SMALL LETTER E WITH INVERTED BREVE", 519),
   ("LATIN CAPITAL LETTER I WITH DOUBLE GRAVE", 520),
   ("LATIN SMALL LETTER I WITH DOUBLE GRAVE", 521),
   ("LATIN CAPITAL LETTER I WITH INVERTED BREVE", 522),
   ("LATIN SMALL LETTER I WITH INVERTED BREVE", 523),
   ("LATIN CAPITAL LETTER O WITH DOUBLE GRAVE", 524),
   ("LATIN SMALL LETTER O WITH DOUBLE GRAVE", 525),
   ("LATIN CAPITAL LETTER O WITH INVERTED BREVE", 526),
   ("LATIN SMALL LETTER O WITH INVERTED BREVE", 527),
   ("LATIN CAPITAL LETTER R WITH DOUBLE GRAVE", 528),
   ("LATIN SMALL LETTER R WITH DOUBLE GRAVE", 529),
   ("LATIN CAPITAL LETTER R WITH INVERTED BREVE", 530),
   ("LATIN SMALL LETTER R WITH INVERTED BREVE", 531),
   ("LATIN CAPITAL LETTER U WITH DOUBLE GRAVE", 532),
   ("LATIN SMALL LETTER U WITH DOUBLE GRAVE", 533),
   ("LATIN CAPITAL LETTER U WITH INVERTED BREVE", 534),
   ("LATIN SMALL LETTER U WITH INVERTED BREVE", 535),
   ("LATIN CAPITAL LETTER S WITH COMMA BELOW", 536),
   ("LATIN SMALL LETTER S WITH COMMA BELOW", 537),
   ("LATIN CAPITAL LETTER T WITH COMMA BELOW", 538),
   ("LATIN SMALL LETTER T WITH COMMA BELOW", 539), ("LATIN CAPITAL LETTER YOGH", 540),
   ("LATIN SMALL LETTER YOGH", 541), ("LATIN CAPITAL LETTER H WITH CARON", 542),
   ("LATIN SMALL LETTER H WITH CARON", 543), ("LATIN CAPITAL LETTER N WITH LONG RIGHT LEG", 544),
   ("LATIN SMALL LETTER D WITH CURL", 545), ("LATIN CAPITAL LETTER OU", 546),
   ("LATIN SMALL LETTER OU", 547), ("LATIN CAPITAL LETTER Z WITH HOOK", 548),
   ("LATIN SMALL LETTER Z WITH HOOK", 549), ("LATIN CAPITAL LETTER A WITH DOT ABOVE", 550),
   ("LATIN SMALL LETTER A WITH DOT ABOVE", 551), ("LATIN CAPITAL LETTER E WITH CEDILLA", 552),
   ("LATIN SMALL LETTER E WITH CEDILLA", 553),
   ("LATIN CAPITAL LETTER O WITH DIAERESIS AND MACRON", 554),
   ("LATIN SMALL LETTER O WITH DIAERESIS AND MACRON", 555),
   ("LATIN CAPITAL LETTER O WITH TILDE AND MACRON", 556),
   ("LATIN SMALL LETTER O WITH TILDE AND MACRON", 557),
   ("LATIN CAPITAL LETTER O WITH DOT ABOVE", 558), ("LATIN SMALL LETTER O WITH DOT ABOVE", 559),
   ("LATIN CAPITAL LETTER O WITH DOT ABOVE AND MACRON", 560),
   ("LATIN SMALL LETTER O WITH DOT ABOVE AND MACRON", 561),
   ("LATIN CAPITAL LETTER Y WITH MACRON", 562), ("LATIN SMALL LETTER Y WITH MACRON", 563),
   ("LATIN SMALL LETTER L WITH CURL", 564), ("LATIN SMALL LETTER N WITH CURL", 565),
   ("LATIN SMALL LETTER T WITH CURL", 566), ("LATIN SMALL LETTER DOTLESS J", 567),
   ("LATIN SMALL LETTER DB DIGRAPH", 568), ("LATIN SMALL LETTER QP DIGRAPH", 569),
   ("LATIN CAPITAL LETTER A WITH STROKE", 570), ("LATIN CAPITAL LETTER C WITH STROKE", 571),
   ("LATIN SMALL LETTER C WITH STROKE", 572), ("LATIN CAPITAL LETTER L WITH BAR", 573),
   ("LATIN CAPITAL LETTER T WITH DIAGONAL STROKE", 574),
   ("LATIN SMALL LETTER S WITH SWASH TAIL", 575), ("LATIN SMALL LETTER Z WITH SWASH TAIL", 576),
   ("LATIN CAPITAL LETTER GLOTTAL STOP", 577), ("LATIN SMALL LETTER GLOTTAL STOP", 578),
   ("LATIN CAPITAL LETTER B WITH STROKE", 579), ("LATIN CAPITAL LETTER U BAR", 580),
   ("LATIN CAPITAL LETTER TURNED V", 581), ("LATIN CAPITAL LETTER E WITH STROKE", 582),
   ("LATIN SMALL LETTER E WITH STROKE", 583), ("LATIN CAPITAL LETTER J WITH STROKE", 584),
   ("LATIN SMALL LETTER J WITH STROKE", 585), ("LATIN CAPITAL LETTER SMALL Q WITH HOOK TAIL", 586),
   ("LATIN SMALL LETTER Q WITH HOOK TAIL", 587), ("LATIN CAPITAL LETTER R WITH STROKE", 588),
   ("LATIN SMALL LETTER R WITH STROKE", 589), ("LATIN CAPITAL LETTER Y WITH STROKE", 590),
   ("LATIN SMALL LETTER Y WITH STROKE", 591)]

/-- The names of the Greek and Coptic block. -/
def greekNames : List (String × Nat) :=
  [("GREEK CAPITAL LETTER HETA", 880), ("GREEK SMALL LETTER HETA", 881),
   ("GREEK CAPITAL LETTER ARCHAIC SAMPI", 882), ("GREEK SMALL LETTER ARCHAIC SAMPI", 883),
   ("GREEK NUMERAL SIGN", 884), ("GREEK LOWER NUMERAL SIGN", 885),
   ("GREEK CAPITAL LETTER PAMPHYLIAN DIGAMMA", 886),
   ("GREEK SMALL LETTER PAMPHYLIAN DIGAMMA", 887), ("GREEK YPOGEGRAMMENI", 890),
   ("GREEK SMALL REVERSED LUNATE SIGMA SYMBOL", 891),
   ("GREEK SMALL DOTTED LUNATE SIGMA SYMBOL", 892),
   ("GREEK SMALL REVERSED DOTTED LUNATE SIGMA SYMBOL", 893), ("GREEK QUESTION MARK", 894),
   ("GREEK CAPITAL LETTER YOT", 895), ("GREEK TONOS", 900), ("GREEK DIALYTIKA TONOS", 901),
   ("GREEK CAPITAL LETTER ALPHA WITH TONOS", 902), ("GREEK ANO TELEIA", 903),
   ("GREEK CAPITAL LETTER EPSILON WITH TONOS", 904), ("GREEK CAPITAL LETTER ETA WITH TONOS", 905),
   ("GREEK CAPITAL LETTER IOTA WITH TONOS", 906), ("GREEK CAPITAL LETTER OMICRON WITH TONOS", 908),
   ("GREEK CAPITAL LETTER UPSILON WITH TONOS", 910),
   ("GREEK CAPITAL LETTER OMEGA WITH TONOS", 911),
   ("GREEK SMALL LETTER IOTA WITH DIALYTIKA AND TONOS", 912), ("GREEK CAPITAL LETTER ALPHA", 913),
   ("GREEK CAPITAL LETTER BETA", 914), ("GREEK CAPITAL LETTER GAMMA", 915),
   ("GREEK CAPITAL LETTER DELTA", 916), ("GREEK CAPITAL LETTER EPSILON", 917),
   ("GREEK CAPITAL LETTER ZETA", 918), ("GREEK CAPITAL LETTER ETA", 919),
   ("GREEK CAPITAL LETTER THETA", 920), ("GREEK CAPITAL LETTER IOTA", 921),
   ("GREEK CAPITAL LETTER KAPPA", 922), ("GREEK CAPITAL LETTER LAMDA", 923),
   ("GREEK CAPITAL LETTER MU", 924), ("GREEK CAPITAL LETTER NU", 925),
   ("GREEK CAPITAL LETTER XI", 926), ("GREEK CAPITAL LETTER OMICRON", 927),
   ("GREEK CAPITAL LETTER PI", 928), ("GREEK CAPITAL LETTER RHO", 929),
   ("GREEK CAPITAL LETTER SIGMA", 931), ("GREEK CAPITAL LETTER TAU", 932),
   ("GREEK CAPITAL LETTER UPSILON", 933), ("GREEK CAPITAL LETTER PHI", 934),
   ("GREEK CAPITAL LETTER CHI", 935), ("GREEK CAPITAL LETTER PSI", 936),
   ("GREEK CAPITAL LETTER OMEGA", 937), ("GREEK CAPITAL LETTER IOTA WITH DIALYTIKA", 938),
   ("GREEK CAPITAL LETTER UPSILON WITH DIALYTIKA", 939),
   ("GREEK SMALL LETTER ALPHA WITH TONOS", 940), ("GREEK SMALL LETTER EPSILON WITH TONOS", 941),
   ("GREEK SMALL LETTER ETA WITH TONOS", 942), ("GREEK SMALL LETTER IOTA WITH TONOS", 943),
   ("GREEK SMALL LETTER UPSILON WITH DIALYTIKA AND TONOS", 944), ("GREEK SMALL LETTER ALPHA", 945),
   ("GREEK SMALL LETTER BETA", 946), ("GREEK SMALL LETTER GAMMA", 947),
   ("GREEK SMALL LETTER DELTA", 948), ("GREEK SMALL LETTER EPSILON", 949),
   ("GREEK SMALL LETTER ZETA", 950), ("GREEK SMALL LETTER ETA", 951),
   ("GREEK SMALL LETTER THETA", 952), ("GREEK SMALL LETTER IOTA", 953),
   ("GREEK SMALL LETTER KAPPA", 954), ("GREEK SMALL LETTER LAMDA", 955),
   ("GREEK SMALL LETTER MU", 956), ("GREEK SMALL LETTER NU", 957), ("GREEK SMALL LETTER XI", 958),
   ("GREEK SMALL LETTER OMICRON", 959), ("GREEK SMALL LETTER PI", 960),
   ("GREEK SMALL LETTER RHO", 961), ("GREEK SMALL LETTER FINAL SIGMA", 962),
   ("GREEK SMALL LETTER SIGMA", 963), ("GREEK SMALL LETTER TAU", 964),
   ("GREEK SMALL LETTER UPSILON", 965), ("GREEK SMALL LETTER PHI", 966),
   ("GREEK SMALL LETTER CHI", 967), ("GREEK SMALL LETTER PSI", 968),
   ("GREEK SMALL LETTER OMEGA", 969), ("GREEK SMALL LETTER IOTA WITH DIALYTIKA", 970),
   ("GREEK SMALL LETTER UPSILON WITH DIALYTIKA", 971),
   ("GREEK SMALL LETTER OMICRON WITH TONOS", 972), ("GREEK SMALL LETTER UPSILON WITH TONOS", 973),
   ("GREEK SMALL LETTER OMEGA WITH TONOS", 974), ("GREEK CAPITAL KAI SYMBOL", 975),
   ("GREEK BETA SYMBOL", 976), ("GREEK THETA SYMBOL", 977),
   ("GREEK UPSILON WITH HOOK SYMBOL", 978), ("GREEK UPSILON WITH ACUTE AND HOOK SYMBOL", 979),
   ("GREEK UPSILON WITH DIAERESIS AND HOOK SYMBOL", 980), ("GREEK PHI SYMBOL", 981),
   ("GREEK PI SYMBOL", 982), ("GREEK KAI SYMBOL", 983), ("GREEK LETTER ARCHAIC KOPPA", 984),
   ("GREEK SMALL LETTER ARCHAIC KOPPA", 985), ("GREEK LETTER STIGMA", 986),
   ("GREEK SMALL LETTER STIGMA", 987), ("GREEK LETTER DIGAMMA", 988),
   ("GREEK SMALL LETTER DIGAMMA", 989), ("GREEK LETTER KOPPA", 990),
   ("GREEK SMALL LETTER KOPPA", 991), ("GREEK LETTER SAMPI", 992),
   ("GREEK SMALL LETTER SAMPI", 993), ("COPTIC CAPITAL LETTER SHEI", 994),
   ("COPTIC SMALL LETTER SHEI", 995), ("COPTIC CAPITAL LETTER FEI", 996),
   ("COPTIC SMALL LETTER FEI", 997), ("COPTIC CAPITAL LETTER KHEI", 998),
   ("COPTIC SMALL LETTER KHEI", 999), ("COPTIC CAPITAL LETTER HORI", 1000),
   ("COPTIC SMALL LETTER HORI", 1001), ("COPTIC CAPITAL LETTER GANGIA", 1002),
   ("COPTIC SMALL LETTER GANGIA", 1003), ("COPTIC CAPITAL LETTER SHIMA", 1004),
   ("COPTIC SMALL LETTER SHIMA", 1005), ("COPTIC CAPITAL LETTER DEI", 1006),
   ("COPTIC SMALL LETTER DEI", 1007), ("GREEK KAPPA SYMBOL", 1008), ("GREEK RHO SYMBOL", 1009),
   ("GREEK LUNATE SIGMA SYMBOL", 1010), ("GREEK LETTER YOT", 1011),
   ("GREEK CAPITAL THETA SYMBOL", 1012), ("GREEK LUNATE EPSILON SYMBOL", 1013),
   ("GREEK REVERSED LUNATE EPSILON SYMBOL", 1014), ("GREEK CAPITAL LETTER SHO", 1015),
   ("GREEK SMALL LETTER SHO", 1016), ("GREEK CAPITAL LUNATE SIGMA SYMBOL", 1017),
   ("GREEK CAPITAL LETTER SAN", 1018), ("GREEK SMALL LETTER SAN", 1019),
   ("GREEK RHO WITH STROKE SYMBOL", 1020), ("GREEK CAPITAL REVERSED LUNATE SIGMA SYMBOL", 1021),
   ("GREEK CAPITAL DOTTED LUNATE SIGMA SYMBOL", 1022),
   ("GREEK CAPITAL REVERSED DOTTED LUNATE SIGMA SYMBOL", 1023)]

/-- The names of the Cyrillic block. -/
def cyrillicNames : List (String × Nat) :=
  [("CYRILLIC CAPITAL LETTER IE WITH GRAVE", 1024), ("CYRILLIC CAPITAL LETTER IO", 1025),
   ("CYRILLIC CAPITAL LETTER DJE", 1026), ("CYRILLIC CAPITAL LETTER GJE", 1027),
   ("CYRILLIC CAPITAL LETTER UKRAINIAN IE", 1028), ("CYRILLIC CAPITAL LETTER DZE", 1029),
   ("CYRILLIC CAPITAL LETTER BYELORUSSIAN-UKRAINIAN I", 1030),
   ("CYRILLIC CAPITAL LETTER YI", 1031), ("CYRILLIC CAPITAL LETTER JE", 1032),
   ("CYRILLIC CAPITAL LETTER LJE", 1033), ("CYRILLIC CAPITAL LETTER NJE", 1034),
   ("CYRILLIC CAPITAL LETTER TSHE", 1035), ("CYRILLIC CAPITAL LETTER KJE", 1036),
   ("CYRILLIC CAPITAL LETTER I WITH GRAVE", 1037), ("CYRILLIC CAPITAL LETTER SHORT U", 1038),
   ("CYRILLIC CAPITAL LETTER DZHE", 1039), ("CYRILLIC CAPITAL LETTER A", 1040),
   ("CYRILLIC CAPITAL LETTER BE", 1041), ("CYRILLIC CAPITAL LETTER VE", 1042),
   ("CYRILLIC CAPITAL LETTER GHE", 1043), ("CYRILLIC CAPITAL LETTER DE", 1044),
   ("CYRILLIC CAPITAL LETTER IE", 1045), ("CYRILLIC CAPITAL LETTER ZHE", 1046),
   ("CYRILLIC CAPITAL LETTER ZE", 1047), ("CYRILLIC CAPITAL LETTER I", 1048),
   ("CYRILLIC CAPITAL LETTER SHORT I", 1049), ("CYRILLIC CAPITAL LETTER KA", 1050),
   ("CYRILLIC CAPITAL LETTER EL", 1051), ("CYRILLIC CAPITAL LETTER EM", 1052),
   ("CYRILLIC CAPITAL LETTER EN", 1053), ("CYRILLIC CAPITAL LETTER O", 1054),
   ("CYRILLIC CAPITAL LETTER PE", 1055), ("CYRILLIC CAPITAL LETTER ER", 1056),
   ("CYRILLIC CAPITAL LETTER ES", 1057), ("CYRILLIC CAPITAL LETTER TE", 1058),
   ("CYRILLIC CAPITAL LETTER U", 1059), ("CYRILLIC CAPITAL LETTER EF", 1060),
   ("CYRILLIC CAPITAL LETTER HA", 1061), ("CYRILLIC CAPITAL LETTER TSE", 1062),
   ("CYRILLIC CAPITAL LETTER CHE", 1063), ("CYRILLIC CAPITAL LETTER SHA", 1064),
   ("CYRILLIC CAPITAL LETTER SHCHA", 1065), ("CYRILLIC CAPITAL LETTER HARD SIGN", 1066),
   ("CYRILLIC CAPITAL LETTER YERU", 1067), ("CYRILLIC CAPITAL LETTER SOFT SIGN", 1068),
   ("CYRILLIC CAPITAL LETTER E", 1069), ("CYRILLIC CAPITAL LETTER YU", 1070),
   ("CYRILLIC CAPITAL LETTER YA", 1071), ("CYRILLIC SMALL LETTER A", 1072),
   ("CYRILLIC SMALL LETTER BE", 1073), ("CYRILLIC SMALL LETTER VE", 1074),
   ("CYRILLIC SMALL LETTER GHE", 1075), ("CYRILLIC SMALL LETTER DE", 1076),
   ("CYRILLIC SMALL LETTER IE", 1077), ("CYRILLIC SMALL LETTER ZHE", 1078),
   ("CYRILLIC SMALL LETTER ZE", 1079), ("CYRILLIC SMALL LETTER I", 1080),
   ("CYRILLIC SMALL LETTER SHORT I", 1081), ("CYRILLIC SMALL LETTER KA", 1082),
   ("CYRILLIC SMALL LETTER EL", 1083), ("CYRILLIC SMALL LETTER EM", 1084),
   ("CYRILLIC SMALL LETTER EN", 1085), ("CYRILLIC SMALL LETTER O", 1086),
   ("CYRILLIC SMALL LETTER PE", 1087), ("CYRILLIC SMALL LETTER ER", 1088),
   ("CYRILLIC SMALL LETTER ES", 1089), ("CYRILLIC SMALL LETTER TE", 1090),
   ("CYRILLIC SMALL LETTER U", 1091), ("CYRILLIC SMALL LETTER EF", 1092),
   ("CYRILLIC SMALL LETTER HA", 1093), ("CYRILLIC SMALL LETTER TSE", 1094),
   ("CYRILLIC SMALL LETTER CHE", 1095), ("CYRILLIC SMALL LETTER SHA", 1096),
   ("CYRILLIC SMALL LETTER SHCHA", 1097), ("CYRILLIC SMALL LETTER HARD SIGN", 1098),
   ("CYRILLIC SMALL LETTER YERU", 1099), ("CYRILLIC SMALL LETTER SOFT SIGN", 1100),
   ("CYRILLIC SMALL LETTER E", 1101), ("CYRILLIC SMALL LETTER YU", 1102),
   ("CYRILLIC SMALL LETTER YA", 1103), ("CYRILLIC SMALL LETTER IE WITH GRAVE", 1104),
   ("CYRILLIC SMALL LETTER IO", 1105), ("CYRILLIC SMALL LETTER DJE", 1106),
   ("CYRILLIC SMALL LETTER GJE", 1107), ("CYRILLIC SMALL LETTER UKRAINIAN IE", 1108),
   ("CYRILLIC SMALL LETTER DZE", 1109), ("CYRILLIC SMALL LETTER BYELORUSSIAN-UKRAINIAN I", 1110),
   ("CYRILLIC SMALL LETTER YI", 1111), ("CYRILLIC SMALL LETTER JE", 1112),
   ("CYRILLIC SMALL LETTER LJE", 1113), ("CYRILLIC SMALL LETTER NJE", 1114),
   ("CYRILLIC SMALL LETTER TSHE", 1115), ("CYRILLIC SMALL LETTER KJE", 1116),
   ("CYRILLIC SMALL LETTER I WITH GRAVE", 1117), ("CYRILLIC SMALL LETTER SHORT U", 1118),
   ("CYRILLIC SMALL LETTER DZHE", 1119), ("CYRILLIC CAPITAL LETTER OMEGA", 1120),
   ("CYRILLIC SMALL LETTER OMEGA", 1121), ("CYRILLIC CAPITAL LETTER YAT", 1122),
   ("CYRILLIC SMALL LETTER YAT", 1123), ("CYRILLIC CAPITAL LETTER IOTIFIED E", 1124),
   ("CYRILLIC SMALL LETTER IOTIFIED E", 1125), ("CYRILLIC CAPITAL LETTER LITTLE YUS", 1126),
   ("CYRILLIC SMALL LETTER LITTLE YUS", 1127),
   ("CYRILLIC CAPITAL LETTER IOTIFIED LITTLE YUS", 1128),
   ("CYRILLIC SMALL LETTER IOTIFIED LITTLE YUS", 1129), ("CYRILLIC CAPITAL LETTER BIG YUS", 1130),
   ("CYRILLIC SMALL LETTER BIG YUS", 1131), ("CYRILLIC CAPITAL LETTER IOTIFIED BIG YUS", 1132),
   ("CYRILLIC SMALL LETTER IOTIFIED BIG YUS", 1133), ("CYRILLIC CAPITAL LETTER KSI", 1134),
   ("CYRILLIC SMALL LETTER KSI", 1135), ("CYRILLIC CAPITAL LETTER PSI", 1136),
   ("CYRILLIC SMALL LETTER PSI", 1137), ("CYRILLIC CAPITAL LETTER FITA", 1138),
   ("CYRILLIC SMALL LETTER FITA", 1139), ("CYRILLIC CAPITAL LETTER IZHITSA", 1140),
   ("CYRILLIC SMALL LETTER IZHITSA", 1141),
   ("CYRILLIC CAPITAL LETTER IZHITSA WITH DOUBLE GRAVE ACCENT", 1142),
   ("CYRILLIC SMALL LETTER IZHITSA WITH DOUBLE GRAVE ACCENT", 1143),
   ("CYRILLIC CAPITAL LETTER UK", 1144), ("CYRILLIC SMALL LETTER UK", 1145),
   ("CYRILLIC CAPITAL LETTER ROUND OMEGA", 1146), ("CYRILLIC SMALL LETTER ROUND OMEGA", 1147),
   ("CYRILLIC CAPITAL LETTER OMEGA WITH TITLO", 1148),
   ("CYRILLIC SMALL LETTER OMEGA WITH TITLO", 1149), ("CYRILLIC CAPITAL LETTER OT", 1150),
   ("CYRILLIC SMALL LETTER OT", 1151), ("CYRILLIC CAPITAL LETTER KOPPA", 1152),
   ("CYRILLIC SMALL LETTER KOPPA", 1153), ("CYRILLIC THOUSANDS SIGN", 1154),
   ("COMBINING CYRILLIC TITLO", 1155), ("COMBINING CYRILLIC PALATALIZATION", 1156),
   ("COMBINING CYRILLIC DASIA PNEUMATA", 1157), ("COMBINING CYRILLIC PSILI PNEUMATA", 1158),
   ("COMBINING CYRILLIC POKRYTIE", 1159), ("COMBINING CYRILLIC HUNDRED THOUSANDS SIGN", 1160),
   ("COMBINING CYRILLIC MILLIONS SIGN", 1161), ("CYRILLIC CAPITAL LETTER SHORT I WITH TAIL", 1162),
   ("CYRILLIC SMALL LETTER SHORT I WITH TAIL", 1163),
   ("CYRILLIC CAPITAL LETTER SEMISOFT SIGN", 1164), ("CYRILLIC SMALL LETTER SEMISOFT SIGN", 1165),
   ("CYRILLIC CAPITAL LETTER ER WITH TICK", 1166), ("CYRILLIC SMALL LETTER ER WITH TICK", 1167),
   ("CYRILLIC CAPITAL LETTER GHE WITH UPTURN", 1168),
   ("CYRILLIC SMALL LETTER GHE WITH UPTURN", 1169),
   ("CYRILLIC CAPITAL LETTER GHE WITH STROKE", 1170),
   ("CYRILLIC SMALL LETTER GHE WITH STROKE", 1171),
   ("CYRILLIC CAPITAL LETTER GHE WITH MIDDLE HOOK", 1172),
   ("CYRILLIC SMALL LETTER GHE WITH MIDDLE HOOK", 1173),
   ("CYRILLIC CAPITAL LETTER ZHE WITH DESCENDER", 1174),
   ("CYRILLIC SMALL LETTER ZHE WITH DESCENDER", 1175),
   ("CYRILLIC CAPITAL LETTER ZE WITH DESCENDER", 1176),
   ("CYRILLIC SMALL LETTER ZE WITH DESCENDER", 1177),
   ("CYRILLIC CAPITAL LETTER KA WITH DESCENDER", 1178),
   ("CYRILLIC SMALL LETTER KA WITH DESCENDER", 1179),
   ("CYRILLIC CAPITAL LETTER KA WITH VERTICAL STROKE", 1180),
   ("CYRILLIC SMALL LETTER KA WITH VERTICAL STROKE", 1181),
   ("CYRILLIC CAPITAL LETTER KA WITH STROKE", 1182),
   ("CYRILLIC SMALL LETTER KA WITH STROKE", 1183), ("CYRILLIC CAPITAL LETTER BASHKIR KA", 1184),
   ("CYRILLIC SMALL LETTER BASHKIR KA", 1185), ("CYRILLIC CAPITAL LETTER EN WITH DESCENDER", 1186),
   ("CYRILLIC SMALL LETTER EN WITH DESCENDER", 1187), ("CYRILLIC CAPITAL LIGATURE EN GHE", 1188),
   ("CYRILLIC SMALL LIGATURE EN GHE", 1189), ("CYRILLIC CAPITAL LETTER PE WITH MIDDLE HOOK", 1190),
   ("CYRILLIC SMALL LETTER PE WITH MIDDLE HOOK", 1191),
   ("CYRILLIC CAPITAL LETTER ABKHASIAN HA", 1192), ("CYRILLIC SMALL LETTER ABKHASIAN HA", 1193),
   ("CYRILLIC CAPITAL LETTER ES WITH DESCENDER", 1194),
   ("CYRILLIC SMALL LETTER ES WITH DESCENDER", 1195),
   ("CYRILLIC CAPITAL LETTER TE WITH DESCENDER", 1196),
   ("CYRILLIC SMALL LETTER TE WITH DESCENDER", 1197), ("CYRILLIC CAPITAL LETTER STRAIGHT U", 1198),
   ("CYRILLIC SMALL LETTER STRAIGHT U", 1199),
   ("CYRILLIC CAPITAL LETTER STRAIGHT U WITH STROKE", 1200),
   ("CYRILLIC SMALL LETTER STRAIGHT U WITH STROKE", 1201),
   ("CYRILLIC CAPITAL LETTER HA WITH DESCENDER", 1202),
   ("CYRILLIC SMALL LETTER HA WITH DESCENDER", 1203), ("CYRILLIC CAPITAL LIGATURE TE TSE", 1204),
   ("CYRILLIC SMALL LIGATURE TE TSE", 1205), ("CYRILLIC CAPITAL LETTER CHE WITH DESCENDER", 1206),
   ("CYRILLIC SMALL LETTER CHE WITH DESCENDER", 1207),
   ("CYRILLIC CAPITAL LETTER CHE WITH VERTICAL STROKE", 1208),
   ("CYRILLIC SMALL LETTER CHE WITH VERTICAL STROKE", 1209),
   ("CYRILLIC CAPITAL LETTER SHHA", 1210), ("CYRILLIC SMALL LETTER SHHA", 1211),
   ("CYRILLIC CAPITAL LETTER ABKHASIAN CHE", 1212), ("CYRILLIC SMALL LETTER ABKHASIAN CHE", 1213),
   ("CYRILLIC CAPITAL LETTER ABKHASIAN CHE WITH DESCENDER", 1214),
   ("CYRILLIC SMALL LETTER ABKHASIAN CHE WITH DESCENDER", 1215),
   ("CYRILLIC LETTER PALOCHKA", 1216), ("CYRILLIC CAPITAL LETTER ZHE WITH BREVE", 1217),
   ("CYRILLIC SMALL LETTER ZHE WITH BREVE", 1218), ("CYRILLIC CAPITAL LETTER KA WITH HOOK", 1219),
   ("CYRILLIC SMALL LETTER KA WITH HOOK", 1220), ("CYRILLIC CAPITAL LETTER EL WITH TAIL", 1221),
   ("CYRILLIC SMALL LETTER EL WITH TAIL", 1222), ("CYRILLIC CAPITAL LETTER EN WITH HOOK", 1223),
   ("CYRILLIC SMALL LETTER EN WITH HOOK", 1224), ("CYRILLIC CAPITAL LETTER EN WITH TAIL", 1225),
   ("CYRILLIC SMALL LETTER EN WITH TAIL", 1226), ("CYRILLIC CAPITAL LETTER KHAKASSIAN CHE", 1227),
   ("CYRILLIC SMALL LETTER KHAKASSIAN CHE", 1228), ("CYRILLIC CAPITAL LETTER EM WITH TAIL", 1229),
   ("CYRILLIC SMALL LETTER EM WITH TAIL", 1230), ("CYRILLIC SMALL LETTER PALOCHKA", 1231),
   ("CYRILLIC CAPITAL LETTER A WITH BREVE", 1232), ("CYRILLIC SMALL LETTER A WITH BREVE", 1233),
   ("CYRILLIC CAPITAL LETTER A WITH DIAERESIS", 1234),
   ("CYRILLIC SMALL LETTER A WITH DIAERESIS", 1235), ("CYRILLIC CAPITAL LIGATURE A IE", 1236),
   ("CYRILLIC SMALL LIGATURE A IE", 1237), ("CYRILLIC CAPITAL LETTER IE WITH BREVE", 1238),
   ("CYRILLIC SMALL LETTER IE WITH BREVE", 1239), ("CYRILLIC CAPITAL LETTER SCHWA", 1240),
   ("CYRILLIC SMALL LETTER SCHWA", 1241), ("CYRILLIC CAPITAL LETTER SCHWA WITH DIAERESIS", 1242),
   ("CYRILLIC SMALL LETTER SCHWA WITH DIAERESIS", 1243),
   ("CYRILLIC CAPITAL LETTER ZHE WITH DIAERESIS", 1244),
   ("CYRILLIC SMALL LETTER ZHE WITH DIAERESIS", 1245),
   ("CYRILLIC CAPITAL LETTER ZE WITH DIAERESIS", 1246),
   ("CYRILLIC SMALL LETTER ZE WITH DIAERESIS", 1247),
   ("CYRILLIC CAPITAL LETTER ABKHASIAN DZE", 1248), ("CYRILLIC SMALL LETTER ABKHASIAN DZE", 1249),
   ("CYRILLIC CAPITAL LETTER I WITH MACRON", 1250), ("CYRILLIC SMALL LETTER I WITH MACRON", 1251),
   ("CYRILLIC CAPITAL LETTER I WITH DIAERESIS", 1252),
   ("CYRILLIC SMALL LETTER I WITH DIAERESIS", 1253),
   ("CYRILLIC CAPITAL LETTER O WITH DIAERESIS", 1254),
   ("CYRILLIC SMALL LETTER O WITH DIAERESIS", 1255), ("CYRILLIC CAPITAL LETTER BARRED O", 1256),
   ("CYRILLIC SMALL LETTER BARRED O", 1257),
   ("CYRILLIC CAPITAL LETTER BARRED O WITH DIAERESIS", 1258),
   ("CYRILLIC SMALL LETTER BARRED O WITH DIAERESIS", 1259),
   ("CYRILLIC CAPITAL LETTER E WITH DIAERESIS", 1260),
   ("CYRILLIC SMALL LETTER E WITH DIAERESIS", 1261),
   ("CYRILLIC CAPITAL LETTER U WITH MACRON", 1262), ("CYRILLIC SMALL LETTER U WITH MACRON", 1263),
   ("CYRILLIC CAPITAL LETTER U WITH DIAERESIS", 1264),
   ("CYRILLIC SMALL LETTER U WITH DIAERESIS", 1265),
   ("CYRILLIC CAPITAL LETTER U WITH DOUBLE ACUTE", 1266),
   ("CYRILLIC SMALL LETTER U WITH DOUBLE ACUTE", 1267),
   ("CYRILLIC CAPITAL LETTER CHE WITH DIAERESIS", 1268),
   ("CYRILLIC SMALL LETTER CHE WITH DIAERESIS", 1269),
   ("CYRILLIC CAPITAL LETTER GHE WITH DESCENDER", 1270),
   ("CYRILLIC SMALL LETTER GHE WITH DESCENDER", 1271),
   ("CYRILLIC CAPITAL LETTER YERU WITH DIAERESIS", 1272),
   ("CYRILLIC SMALL LETTER YERU WITH DIAERESIS", 1273),
   ("CYRILLIC CAPITAL LETTER GHE WITH STROKE AND HOOK", 1274),
   ("CYRILLIC SMALL LETTER GHE WITH STROKE AND HOOK", 1275),
   ("CYRILLIC CAPITAL LETTER HA WITH HOOK", 1276), ("CYRILLIC SMALL LETTER HA WITH HOOK", 1277),
   ("CYRILLIC CAPITAL LETTER HA WITH STROKE", 1278),
   ("CYRILLIC SMALL LETTER HA WITH STROKE", 1279)]

/-- The names of digits of the Arabic script. -/
def digitNames : List (String × Nat) :=
  [("ARABIC-INDIC DIGIT ZERO", 1632), ("ARABIC-INDIC DIGIT ONE", 1633),
   ("ARABIC-INDIC DIGIT TWO", 1634), ("ARABIC-INDIC DIGIT THREE", 1635),
   ("ARABIC-INDIC DIGIT FOUR", 1636), ("ARABIC-INDIC DIGIT FIVE", 1637),
   ("ARABIC-INDIC DIGIT SIX", 1638), ("ARABIC-INDIC DIGIT SEVEN", 1639),
   ("ARABIC-INDIC DIGIT EIGHT", 1640), ("ARABIC-INDIC DIGIT NINE", 1641)]

/-- The names of general punctuation, superscripts and currency signs. -/
def punctuationNames : List (String × Nat) :=
  [("EN QUAD", 8192), ("EM QUAD", 8193), ("EN SPACE", 8194), ("EM SPACE", 8195),
   ("THREE-PER-EM SPACE", 8196), ("FOUR-PER-EM SPACE", 8197), ("SIX-PER-EM SPACE", 8198),
   ("FIGURE SPACE", 8199), ("PUNCTUATION SPACE", 8200), ("THIN SPACE", 8201), ("HAIR SPACE", 8202),
   ("ZERO WIDTH SPACE", 8203), ("ZERO WIDTH NON-JOINER", 8204), ("ZERO WIDTH JOINER", 8205),
   ("LEFT-TO-RIGHT MARK", 8206), ("RIGHT-TO-LEFT MARK", 8207), ("HYPHEN", 8208),
   ("NON-BREAKING HYPHEN", 8209), ("FIGURE DASH", 8210), ("EN DASH", 8211), ("EM DASH", 8212),
   ("HORIZONTAL BAR", 8213), ("DOUBLE VERTICAL LINE", 8214), ("DOUBLE LOW LINE", 8215),
   ("LEFT SINGLE QUOTATION MARK", 8216), ("RIGHT SINGLE QUOTATION MARK", 8217),
   ("SINGLE LOW-9 QUOTATION MARK", 8218), ("SINGLE HIGH-REVERSED-9 QUOTATION MARK", 8219),
   ("LEFT DOUBLE QUOTATION MARK", 8220), ("RIGHT DOUBLE QUOTATION MARK", 8221),
   ("DOUBLE LOW-9 QUOTATION MARK", 8222), ("DOUBLE HIGH-REVERSED-9 QUOTATION MARK", 8223),
   ("DAGGER", 8224), ("DOUBLE DAGGER", 8225), ("BULLET", 8226), ("TRIANGULAR BULLET", 8227),
   ("ONE DOT LEADER", 8228), ("TWO DOT LEADER", 8229), ("HORIZONTAL ELLIPSIS", 8230),
   ("HYPHENATION POINT", 8231), ("LINE SEPARATOR", 8232), ("PARAGRAPH SEPARATOR", 8233),
   ("LEFT-TO-RIGHT EMBEDDING", 8234), ("RIGHT-TO-LEFT EMBEDDING", 8235),
   ("POP DIRECTIONAL FORMATTING", 8236), ("LEFT-TO-RIGHT OVERRIDE", 8237),
   ("RIGHT-TO-LEFT OVERRIDE", 8238), ("NARROW NO-BREAK SPACE", 8239), ("PER MILLE SIGN", 8240),
   ("PER TEN THOUSAND SIGN", 8241), ("PRIME", 8242), ("DOUBLE PRIME", 8243),
   ("TRIPLE PRIME", 8244), ("REVERSED PRIME", 8245), ("REVERSED DOUBLE PRIME", 8246),
   ("REVERSED TRIPLE PRIME", 8247), ("CARET", 8248),
   ("SINGLE LEFT-POINTING ANGLE QUOTATION MARK", 8249),
   ("SINGLE RIGHT-POINTING ANGLE QUOTATION MARK", 8250), ("REFERENCE MARK", 8251),
   ("DOUBLE EXCLAMATION MARK", 8252), ("INTERROBANG", 8253), ("OVERLINE", 8254),
   ("UNDERTIE", 8255), ("CHARACTER TIE", 8256), ("CARET INSERTION POINT", 8257),
   ("ASTERISM", 8258), ("HYPHEN BULLET", 8259), ("FRACTION SLASH", 8260),
   ("LEFT SQUARE BRACKET WITH QUILL", 8261), ("RIGHT SQUARE BRACKET WITH QUILL", 8262),
   ("DOUBLE QUESTION MARK", 8263), ("QUESTION EXCLAMATION MARK", 8264),
   ("EXCLAMATION QUESTION MARK", 8265), ("TIRONIAN SIGN ET", 8266),
   ("REVERSED PILCROW SIGN", 8267), ("BLACK LEFTWARDS BULLET", 8268),
   ("BLACK RIGHTWARDS BULLET", 8269), ("LOW ASTERISK", 8270), ("REVERSED SEMICOLON", 8271),
   ("CLOSE UP", 8272), ("TWO ASTERISKS ALIGNED VERTICALLY", 8273), ("COMMERCIAL MINUS SIGN", 8274),
   ("SWUNG DASH", 8275), ("INVERTED UNDERTIE", 8276), ("FLOWER PUNCTUATION MARK", 8277),
   ("THREE DOT PUNCTUATION", 8278), ("QUADRUPLE PRIME", 8279), ("FOUR DOT PUNCTUATION", 8280),
   ("FIVE DOT PUNCTUATION", 8281), ("TWO DOT PUNCTUATION", 8282), ("FOUR DOT MARK", 8283),
   ("DOTTED CROSS", 8284), ("TRICOLON", 8285), ("VERTICAL FOUR DOTS", 8286),
   ("MEDIUM MATHEMATICAL SPACE", 8287), ("WORD JOINER", 8288), ("FUNCTION APPLICATION", 8289),
   ("INVISIBLE TIMES", 8290), ("INVISIBLE SEPARATOR", 8291), ("INVISIBLE PLUS", 8292),
   ("LEFT-TO-RIGHT ISOLATE", 8294), ("RIGHT-TO-LEFT ISOLATE", 8295),
   ("FIRST STRONG ISOLATE", 8296), ("POP DIRECTIONAL ISOLATE", 8297),
   ("INHIBIT SYMMETRIC SWAPPING", 8298), ("ACTIVATE SYMMETRIC SWAPPING", 8299),
   ("INHIBIT ARABIC FORM SHAPING", 8300), ("ACTIVATE ARABIC FORM SHAPING", 8301),
   ("NATIONAL DIGIT SHAPES", 8302), ("NOMINAL DIGIT SHAPES", 8303), ("SUPERSCRIPT ZERO", 8304),
   ("SUPERSCRIPT LATIN SMALL LETTER I", 8305), ("SUPERSCRIPT FOUR", 8308),
   ("SUPERSCRIPT FIVE", 8309), ("SUPERSCRIPT SIX", 8310), ("SUPERSCRIPT SEVEN", 8311),
   ("SUPERSCRIPT EIGHT", 8312), ("SUPERSCRIPT NINE", 8313), ("SUPERSCRIPT PLUS SIGN", 8314),
   ("SUPERSCRIPT MINUS", 8315), ("SUPERSCRIPT EQUALS SIGN", 8316),
   ("SUPERSCRIPT LEFT PARENTHESIS", 8317), ("SUPERSCRIPT RIGHT PARENTHESIS", 8318),
   ("SUPERSCRIPT LATIN SMALL LETTER N", 8319), ("SUBSCRIPT ZERO", 8320), ("SUBSCRIPT ONE", 8321),
   ("SUBSCRIPT TWO", 8322), ("SUBSCRIPT THREE", 8323), ("SUBSCRIPT FOUR", 8324),
   ("SUBSCRIPT FIVE", 8325), ("SUBSCRIPT SIX", 8326), ("SUBSCRIPT SEVEN", 8327),
   ("SUBSCRIPT EIGHT", 8328), ("SUBSCRIPT NINE", 8329), ("SUBSCRIPT PLUS SIGN", 8330),
   ("SUBSCRIPT MINUS", 8331), ("SUBSCRIPT EQUALS SIGN", 8332),
   ("SUBSCRIPT LEFT PARENTHESIS", 8333), ("SUBSCRIPT RIGHT PARENTHESIS", 8334),
   ("LATIN SUBSCRIPT SMALL LETTER A", 8336), ("LATIN SUBSCRIPT SMALL LETTER E", 8337),
   ("LATIN SUBSCRIPT SMALL LETTER O", 8338), ("LATIN SUBSCRIPT SMALL LETTER X", 8339),
   ("LATIN SUBSCRIPT SMALL LETTER SCHWA", 8340), ("LATIN SUBSCRIPT SMALL LETTER H", 8341),
   ("LATIN SUBSCRIPT SMALL LETTER K", 8342), ("LATIN SUBSCRIPT SMALL LETTER L", 8343),
   ("LATIN SUBSCRIPT SMALL LETTER M", 8344), ("LATIN SUBSCRIPT SMALL LETTER N", 8345),
   ("LATIN SUBSCRIPT SMALL LETTER P", 8346), ("LATIN SUBSCRIPT SMALL LETTER S", 8347),
   ("LATIN SUBSCRIPT SMALL LETTER T", 8348), ("EURO-CURRENCY SIGN", 8352), ("COLON SIGN", 8353),
   ("CRUZEIRO SIGN", 8354), ("FRENCH FRANC SIGN", 8355), ("LIRA SIGN", 8356), ("MILL SIGN", 8357),
   ("NAIRA SIGN", 8358), ("PESETA SIGN", 8359), ("RUPEE SIGN", 8360), ("WON SIGN", 8361),
   ("NEW SHEQEL SIGN", 8362), ("DONG SIGN", 8363), ("EURO SIGN", 8364), ("KIP SIGN", 8365),
   ("TUGRIK SIGN", 8366), ("DRACHMA SIGN", 8367), ("GERMAN PENNY SIGN", 8368), ("PESO SIGN", 8369),
   ("GUARANI SIGN", 8370), ("AUSTRAL SIGN", 8371), ("HRYVNIA SIGN", 8372), ("CEDI SIGN", 8373),
   ("LIVRE TOURNOIS SIGN", 8374), ("SPESMILO SIGN", 8375), ("TENGE SIGN", 8376),
   ("INDIAN RUPEE SIGN", 8377), ("TURKISH LIRA SIGN", 8378), ("NORDIC MARK SIGN", 8379),
   ("MANAT SIGN", 8380), ("RUBLE SIGN", 8381), ("LARI SIGN", 8382), ("BITCOIN SIGN", 8383),
   ("SOM SIGN", 8384)]

/-- The names of letterlike symbols and number forms. -/
def letterlikeNames : List (String × Nat) :=
  [("ACCOUNT OF", 8448), ("ADDRESSED TO THE SUBJECT", 8449), ("DOUBLE-STRUCK CAPITAL C", 8450),
   ("DEGREE CELSIUS", 8451), ("CENTRE LINE SYMBOL", 8452), ("CARE OF", 8453), ("CADA UNA", 8454),
   ("EULER CONSTANT", 8455), ("SCRUPLE", 8456), ("DEGREE FAHRENHEIT", 8457),
   ("SCRIPT SMALL G", 8458), ("SCRIPT CAPITAL H", 8459), ("BLACK-LETTER CAPITAL H", 8460),
   ("DOUBLE-STRUCK CAPITAL H", 8461), ("PLANCK CONSTANT", 8462),
   ("PLANCK CONSTANT OVER TWO PI", 8463), ("SCRIPT CAPITAL I", 8464),
   ("BLACK-LETTER CAPITAL I", 8465), ("SCRIPT CAPITAL L", 8466), ("SCRIPT SMALL L", 8467),
   ("L B BAR SYMBOL", 8468), ("DOUBLE-STRUCK CAPITAL N", 8469), ("NUMERO SIGN", 8470),
   ("SOUND RECORDING COPYRIGHT", 8471), ("SCRIPT CAPITAL P", 8472),
   ("DOUBLE-STRUCK CAPITAL P", 8473), ("DOUBLE-STRUCK CAPITAL Q", 8474),
   ("SCRIPT CAPITAL R", 8475), ("BLACK-LETTER CAPITAL R", 8476), ("DOUBLE-STRUCK CAPITAL R", 8477),
   ("PRESCRIPTION TAKE", 8478), ("RESPONSE", 8479), ("SERVICE MARK", 8480),
   ("TELEPHONE SIGN", 8481), ("TRADE MARK SIGN", 8482), ("VERSICLE", 8483),
   ("DOUBLE-STRUCK CAPITAL Z", 8484), ("OUNCE SIGN", 8485), ("OHM SIGN", 8486),
   ("INVERTED OHM SIGN", 8487), ("BLACK-LETTER CAPITAL Z", 8488),
   ("TURNED GREEK SMALL LETTER IOTA", 8489), ("KELVIN SIGN", 8490), ("ANGSTROM SIGN", 8491),
   ("SCRIPT CAPITAL B", 8492), ("BLACK-LETTER CAPITAL C", 8493), ("ESTIMATED SYMBOL", 8494),
   ("SCRIPT SMALL E", 8495), ("SCRIPT CAPITAL E", 8496), ("SCRIPT CAPITAL F", 8497),
   ("TURNED CAPITAL F", 8498), ("SCRIPT CAPITAL M", 8499), ("SCRIPT SMALL O", 8500),
   ("ALEF SYMBOL", 8501), ("BET SYMBOL", 8502), ("GIMEL SYMBOL", 8503), ("DALET SYMBOL", 8504),
   ("INFORMATION SOURCE", 8505), ("ROTATED CAPITAL Q", 8506), ("FACSIMILE SIGN", 8507),
   ("DOUBLE-STRUCK SMALL PI", 8508), ("DOUBLE-STRUCK SMALL GAMMA", 8509),
   ("DOUBLE-STRUCK CAPITAL GAMMA", 8510), ("DOUBLE-STRUCK CAPITAL PI", 8511),
   ("DOUBLE-STRUCK N-ARY SUMMATION", 8512), ("TURNED SANS-SERIF CAPITAL G", 8513),
   ("TURNED SANS-SERIF CAPITAL L", 8514), ("REVERSED SANS-SERIF CAPITAL L", 8515),
   ("TURNED SANS-SERIF CAPITAL Y", 8516), ("DOUBLE-STRUCK ITALIC CAPITAL D", 8517),
   ("DOUBLE-STRUCK ITALIC SMALL D", 8518), ("DOUBLE-STRUCK ITALIC SMALL E", 8519),
   ("DOUBLE-STRUCK ITALIC SMALL I", 8520), ("DOUBLE-STRUCK ITALIC SMALL J", 8521),
   ("PROPERTY LINE", 8522), ("TURNED AMPERSAND", 8523), ("PER SIGN", 8524), ("AKTIESELSKAB", 8525),
   ("TURNED SMALL F", 8526), ("SYMBOL FOR SAMARITAN SOURCE", 8527),
   ("VULGAR FRACTION ONE SEVENTH", 8528), ("VULGAR FRACTION ONE NINTH", 8529),
   ("VULGAR FRACTION ONE TENTH", 8530), ("VULGAR FRACTION ONE THIRD", 8531),
   ("VULGAR FRACTION TWO THIRDS", 8532), ("VULGAR FRACTION ONE FIFTH", 8533),
   ("VULGAR FRACTION TWO FIFTHS", 8534), ("VULGAR FRACTION THREE FIFTHS", 8535),
   ("VULGAR FRACTION FOUR FIFTHS", 8536), ("VULGAR FRACTION ONE SIXTH", 8537),
   ("VULGAR FRACTION FIVE SIXTHS", 8538), ("VULGAR FRACTION ONE EIGHTH", 8539),
   ("VULGAR FRACTION THREE EIGHTHS", 8540), ("VULGAR FRACTION FIVE EIGHTHS", 8541),
   ("VULGAR FRACTION SEVEN EIGHTHS", 8542), ("FRACTION NUMERATOR ONE", 8543),
   ("ROMAN NUMERAL ONE", 8544), ("ROMAN NUMERAL TWO", 8545), ("ROMAN NUMERAL THREE", 8546),
   ("ROMAN NUMERAL FOUR", 8547), ("ROMAN NUMERAL FIVE", 8548), ("ROMAN NUMERAL SIX", 8549),
   ("ROMAN NUMERAL SEVEN", 8550), ("ROMAN NUMERAL EIGHT", 8551), ("ROMAN NUMERAL NINE", 8552),
   ("ROMAN NUMERAL TEN", 8553), ("ROMAN NUMERAL ELEVEN", 8554), ("ROMAN NUMERAL TWELVE", 8555),
   ("ROMAN NUMERAL FIFTY", 8556), ("ROMAN NUMERAL ONE HUNDRED", 8557),
   ("ROMAN NUMERAL FIVE HUNDRED", 8558), ("ROMAN NUMERAL ONE THOUSAND", 8559),
   ("SMALL ROMAN NUMERAL ONE", 8560), ("SMALL ROMAN NUMERAL TWO", 8561),
   ("SMALL ROMAN NUMERAL THREE", 8562), ("SMALL ROMAN NUMERAL FOUR", 8563),
   ("SMALL ROMAN NUMERAL FIVE", 8564), ("SMALL ROMAN NUMERAL SIX", 8565),
   ("SMALL ROMAN NUMERAL SEVEN", 8566), ("SMALL ROMAN NUMERAL EIGHT", 8567),
   ("SMALL ROMAN NUMERAL NINE", 8568), ("SMALL ROMAN NUMERAL TEN", 8569),
   ("SMALL ROMAN NUMERAL ELEVEN", 8570), ("SMALL ROMAN NUMERAL TWELVE", 8571),
   ("SMALL ROMAN NUMERAL FIFTY", 8572), ("SMALL ROMAN NUMERAL ONE HUNDRED", 8573),
   ("SMALL ROMAN NUMERAL FIVE HUNDRED", 8574), ("SMALL ROMAN NUMERAL ONE THOUSAND", 8575),
   ("ROMAN NUMERAL ONE THOUSAND C D", 8576), ("ROMAN NUMERAL FIVE THOUSAND", 8577),
   ("ROMAN NUMERAL TEN THOUSAND", 8578), ("ROMAN NUMERAL REVERSED ONE HUNDRED", 8579),
   ("LATIN SMALL LETTER REVERSED C", 8580), ("ROMAN NUMERAL SIX LATE FORM", 8581),
   ("ROMAN NUMERAL FIFTY EARLY FORM", 8582), ("ROMAN NUMERAL FIFTY THOUSAND", 8583),
   ("ROMAN NUMERAL ONE HUNDRED THOUSAND", 8584), ("VULGAR FRACTION ZERO THIRDS", 8585),
   ("TURNED DIGIT TWO", 8586), ("TURNED DIGIT THREE", 8587)]

/-- The names of arrows. -/
def arrowNames : List (String × Nat) :=
  [("LEFTWARDS ARROW", 8592), ("UPWARDS ARROW", 8593), ("RIGHTWARDS ARROW", 8594),
   ("DOWNWARDS ARROW", 8595), ("LEFT RIGHT ARROW", 8596), ("UP DOWN ARROW", 8597),
   ("NORTH WEST ARROW", 8598), ("NORTH EAST ARROW", 8599), ("SOUTH EAST ARROW", 8600),
   ("SOUTH WEST ARROW", 8601), ("LEFTWARDS ARROW WITH STROKE", 8602),
   ("RIGHTWARDS ARROW WITH STROKE", 8603), ("LEFTWARDS WAVE ARROW", 8604),
   ("RIGHTWARDS WAVE ARROW", 8605), ("LEFTWARDS TWO HEADED ARROW", 8606),
   ("UPWARDS TWO HEADED ARROW", 8607), ("RIGHTWARDS TWO HEADED ARROW", 8608),
   ("DOWNWARDS TWO HEADED ARROW", 8609), ("LEFTWARDS ARROW WITH TAIL", 8610),
   ("RIGHTWARDS ARROW WITH TAIL", 8611), ("LEFTWARDS ARROW FROM BAR", 8612),
   ("UPWARDS ARROW FROM BAR", 8613), ("RIGHTWARDS ARROW FROM BAR", 8614),
   ("DOWNWARDS ARROW FROM BAR", 8615), ("UP DOWN ARROW WITH BASE", 8616),
   ("LEFTWARDS ARROW WITH HOOK", 8617), ("RIGHTWARDS ARROW WITH HOOK", 8618),
   ("LEFTWARDS ARROW WITH LOOP", 8619), ("RIGHTWARDS ARROW WITH LOOP", 8620),
   ("LEFT RIGHT WAVE ARROW", 8621), ("LEFT RIGHT ARROW WITH STROKE", 8622),
   ("DOWNWARDS ZIGZAG ARROW", 8623), ("UPWARDS ARROW WITH TIP LEFTWARDS", 8624),
   ("UPWARDS ARROW WITH TIP RIGHTWARDS", 8625), ("DOWNWARDS ARROW WITH TIP LEFTWARDS", 8626),
   ("DOWNWARDS ARROW WITH TIP RIGHTWARDS", 8627), ("RIGHTWARDS ARROW WITH CORNER DOWNWARDS", 8628),
   ("DOWNWARDS ARROW WITH CORNER LEFTWARDS", 8629), ("ANTICLOCKWISE TOP SEMICIRCLE ARROW", 8630),
   ("CLOCKWISE TOP SEMICIRCLE ARROW", 8631), ("NORTH WEST ARROW TO LONG BAR", 8632),
   ("LEFTWARDS ARROW TO BAR OVER RIGHTWARDS ARROW TO BAR", 8633),
   ("ANTICLOCKWISE OPEN CIRCLE ARROW", 8634), ("CLOCKWISE OPEN CIRCLE ARROW", 8635),
   ("LEFTWARDS HARPOON WITH BARB UPWARDS", 8636), ("LEFTWARDS HARPOON WITH BARB DOWNWARDS", 8637),
   ("UPWARDS HARPOON WITH BARB RIGHTWARDS", 8638), ("UPWARDS HARPOON WITH BARB LEFTWARDS", 8639),
   ("RIGHTWARDS HARPOON WITH BARB UPWARDS", 8640),
   ("RIGHTWARDS HARPOON WITH BARB DOWNWARDS", 8641),
   ("DOWNWARDS HARPOON WITH BARB RIGHTWARDS", 8642),
   ("DOWNWARDS HARPOON WITH BARB LEFTWARDS", 8643),
   ("RIGHTWARDS ARROW OVER LEFTWARDS ARROW", 8644),
   ("UPWARDS ARROW LEFTWARDS OF DOWNWARDS ARROW", 8645),
   ("LEFTWARDS ARROW OVER RIGHTWARDS ARROW", 8646), ("LEFTWARDS PAIRED ARROWS", 8647),
   ("UPWARDS PAIRED ARROWS", 8648), ("RIGHTWARDS PAIRED ARROWS", 8649),
   ("DOWNWARDS PAIRED ARROWS", 8650), ("LEFTWARDS HARPOON OVER RIGHTWARDS HARPOON", 8651),
   ("RIGHTWARDS HARPOON OVER LEFTWARDS HARPOON", 8652),
   ("LEFTWARDS DOUBLE ARROW WITH STROKE", 8653), ("LEFT RIGHT DOUBLE ARROW WITH STROKE", 8654),
   ("RIGHTWARDS DOUBLE ARROW WITH STROKE", 8655), ("LEFTWARDS DOUBLE ARROW", 8656),
   ("UPWARDS DOUBLE ARROW", 8657), ("RIGHTWARDS DOUBLE ARROW", 8658),
   ("DOWNWARDS DOUBLE ARROW", 8659), ("LEFT RIGHT DOUBLE ARROW", 8660),
   ("UP DOWN DOUBLE ARROW", 8661), ("NORTH WEST DOUBLE ARROW", 8662),
   ("NORTH EAST DOUBLE ARROW", 8663), ("SOUTH EAST DOUBLE ARROW", 8664),
   ("SOUTH WEST DOUBLE ARROW", 8665), ("LEFTWARDS TRIPLE ARROW", 8666),
   ("RIGHTWARDS TRIPLE ARROW", 8667), ("LEFTWARDS SQUIGGLE ARROW", 8668),
   ("RIGHTWARDS SQUIGGLE ARROW", 8669), ("UPWARDS ARROW WITH DOUBLE STROKE", 8670),
   ("DOWNWARDS ARROW WITH DOUBLE STROKE", 8671), ("LEFTWARDS DASHED ARROW", 8672),
   ("UPWARDS DASHED ARROW", 8673), ("RIGHTWARDS DASHED ARROW", 8674),
   ("DOWNWARDS DASHED ARROW", 8675), ("LEFTWARDS ARROW TO BAR", 8676),
   ("RIGHTWARDS ARROW TO BAR", 8677), ("LEFTWARDS WHITE ARROW", 8678),
   ("UPWARDS WHITE ARROW", 8679), ("RIGHTWARDS WHITE ARROW", 8680),
   ("DOWNWARDS WHITE ARROW", 8681), ("UPWARDS WHITE ARROW FROM BAR", 8682),
   ("UPWARDS WHITE ARROW ON PEDESTAL", 8683),
   ("UPWARDS WHITE ARROW ON PEDESTAL WITH HORIZONTAL BAR", 8684),
   ("UPWARDS WHITE ARROW ON PEDESTAL WITH VERTICAL BAR", 8685),
   ("UPWARDS WHITE DOUBLE ARROW", 8686), ("UPWARDS WHITE DOUBLE ARROW ON PEDESTAL", 8687),
   ("RIGHTWARDS WHITE ARROW FROM WALL", 8688), ("NORTH WEST ARROW TO CORNER", 8689),
   ("SOUTH EAST ARROW TO CORNER", 8690), ("UP DOWN WHITE ARROW", 8691),
   ("RIGHT ARROW WITH SMALL CIRCLE", 8692), ("DOWNWARDS ARROW LEFTWARDS OF UPWARDS ARROW", 8693),
   ("THREE RIGHTWARDS ARROWS", 8694), ("LEFTWARDS ARROW WITH VERTICAL STROKE", 8695),
   ("RIGHTWARDS ARROW WITH VERTICAL STROKE", 8696),
   ("LEFT RIGHT ARROW WITH VERTICAL STROKE", 8697),
   ("LEFTWARDS ARROW WITH DOUBLE VERTICAL STROKE", 8698),
   ("RIGHTWARDS ARROW WITH DOUBLE VERTICAL STROKE", 8699),
   ("LEFT RIGHT ARROW WITH DOUBLE VERTICAL STROKE", 8700), ("LEFTWARDS OPEN-HEADED ARROW", 8701),
   ("RIGHTWARDS OPEN-HEADED ARROW", 8702), ("LEFT RIGHT OPEN-HEADED ARROW", 8703)]

/-- The names of mathematical operators. -/
def mathNames : List (String × Nat) :=
  [("FOR ALL", 8704), ("COMPLEMENT", 8705), ("PARTIAL DIFFERENTIAL", 8706), ("THERE EXISTS", 8707),
   ("THERE DOES NOT EXIST", 8708), ("EMPTY SET", 8709), ("INCREMENT", 8710), ("NABLA", 8711),
   ("ELEMENT OF", 8712), ("NOT AN ELEMENT OF", 8713), ("SMALL ELEMENT OF", 8714),
   ("CONTAINS AS MEMBER", 8715), ("DOES NOT CONTAIN AS MEMBER", 8716),
   ("SMALL CONTAINS AS MEMBER", 8717), ("END OF PROOF", 8718), ("N-ARY PRODUCT", 8719),
   ("N-ARY COPRODUCT", 8720), ("N-ARY SUMMATION", 8721), ("MINUS SIGN", 8722),
   ("MINUS-OR-PLUS SIGN", 8723), ("DOT PLUS", 8724), ("DIVISION SLASH", 8725), ("SET MINUS", 8726),
   ("ASTERISK OPERATOR", 8727), ("RING OPERATOR", 8728), ("BULLET OPERATOR", 8729),
   ("SQUARE ROOT", 8730), ("CUBE ROOT", 8731), ("FOURTH ROOT", 8732), ("PROPORTIONAL TO", 8733),
   ("INFINITY", 8734), ("RIGHT ANGLE", 8735), ("ANGLE", 8736), ("MEASURED ANGLE", 8737),
   ("SPHERICAL ANGLE", 8738), ("DIVIDES", 8739), ("DOES NOT DIVIDE", 8740), ("PARALLEL TO", 8741),
   ("NOT PARALLEL TO", 8742), ("LOGICAL AND", 8743), ("LOGICAL OR", 8744), ("INTERSECTION", 8745),
   ("UNION", 8746), ("INTEGRAL", 8747), ("DOUBLE INTEGRAL", 8748), ("TRIPLE INTEGRAL", 8749),
   ("CONTOUR INTEGRAL", 8750), ("SURFACE INTEGRAL", 8751), ("VOLUME INTEGRAL", 8752),
   ("CLOCKWISE INTEGRAL", 8753), ("CLOCKWISE CONTOUR INTEGRAL", 8754),
   ("ANTICLOCKWISE CONTOUR INTEGRAL", 8755), ("THEREFORE", 8756), ("BECAUSE", 8757),
   ("RATIO", 8758), ("PROPORTION", 8759), ("DOT MINUS", 8760), ("EXCESS", 8761),
   ("GEOMETRIC PROPORTION", 8762), ("HOMOTHETIC", 8763), ("TILDE OPERATOR", 8764),
   ("REVERSED TILDE", 8765), ("INVERTED LAZY S", 8766), ("SINE WAVE", 8767),
   ("WREATH PRODUCT", 8768), ("NOT TILDE", 8769), ("MINUS TILDE", 8770),
   ("ASYMPTOTICALLY EQUAL TO", 8771), ("NOT ASYMPTOTICALLY EQUAL TO", 8772),
   ("APPROXIMATELY EQUAL TO", 8773), ("APPROXIMATELY BUT NOT ACTUALLY EQUAL TO", 8774),
   ("NEITHER APPROXIMATELY NOR ACTUALLY EQUAL TO", 8775), ("ALMOST EQUAL TO", 8776),
   ("NOT ALMOST EQUAL TO", 8777), ("ALMOST EQUAL OR EQUAL TO", 8778), ("TRIPLE TILDE", 8779),
   ("ALL EQUAL TO", 8780), ("EQUIVALENT TO", 8781), ("GEOMETRICALLY EQUIVALENT TO", 8782),
   ("DIFFERENCE BETWEEN", 8783), ("APPROACHES THE LIMIT", 8784), ("GEOMETRICALLY EQUAL TO", 8785),
   ("APPROXIMATELY EQUAL TO OR THE IMAGE OF", 8786), ("IMAGE OF OR APPROXIMATELY EQUAL TO", 8787),
   ("COLON EQUALS", 8788), ("EQUALS COLON", 8789), ("RING IN EQUAL TO", 8790),
   ("RING EQUAL TO", 8791), ("CORRESPONDS TO", 8792), ("ESTIMATES", 8793),
   ("EQUIANGULAR TO", 8794), ("STAR EQUALS", 8795), ("DELTA EQUAL TO", 8796),
   ("EQUAL TO BY DEFINITION", 8797), ("MEASURED BY", 8798), ("QUESTIONED EQUAL TO", 8799),
   ("NOT EQUAL TO", 8800), ("IDENTICAL TO", 8801), ("NOT IDENTICAL TO", 8802),
   ("STRICTLY EQUIVALENT TO", 8803), ("LESS-THAN OR EQUAL TO", 8804),
   ("GREATER-THAN OR EQUAL TO", 8805), ("LESS-THAN OVER EQUAL TO", 8806),
   ("GREATER-THAN OVER EQUAL TO", 8807), ("LESS-THAN BUT NOT EQUAL TO", 8808),
   ("GREATER-THAN BUT NOT EQUAL TO", 8809), ("MUCH LESS-THAN", 8810), ("MUCH GREATER-THAN", 8811),
   ("BETWEEN", 8812), ("NOT EQUIVALENT TO", 8813), ("NOT LESS-THAN", 8814),
   ("NOT GREATER-THAN", 8815), ("NEITHER LESS-THAN NOR EQUAL TO", 8816),
   ("NEITHER GREATER-THAN NOR EQUAL TO", 8817), ("LESS-THAN OR EQUIVALENT TO", 8818),
   ("GREATER-THAN OR EQUIVALENT TO", 8819), ("NEITHER LESS-THAN NOR EQUIVALENT TO", 8820),
   ("NEITHER GREATER-THAN NOR EQUIVALENT TO", 8821), ("LESS-THAN OR GREATER-THAN", 8822),
   ("GREATER-THAN OR LESS-THAN", 8823), ("NEITHER LESS-THAN NOR GREATER-THAN", 8824),
   ("NEITHER GREATER-THAN NOR LESS-THAN", 8825), ("PRECEDES", 8826), ("SUCCEEDS", 8827),
   ("PRECEDES OR EQUAL TO", 8828), ("SUCCEEDS OR EQUAL TO", 8829),
   ("PRECEDES OR EQUIVALENT TO", 8830), ("SUCCEEDS OR EQUIVALENT TO", 8831),
   ("DOES NOT PRECEDE", 8832), ("DOES NOT SUCCEED", 8833), ("SUBSET OF", 8834),
   ("SUPERSET OF", 8835), ("NOT A SUBSET OF", 8836), ("NOT A SUPERSET OF", 8837),
   ("SUBSET OF OR EQUAL TO", 8838), ("SUPERSET OF OR EQUAL TO", 8839),
   ("NEITHER A SUBSET OF NOR EQUAL TO", 8840), ("NEITHER A SUPERSET OF NOR EQUAL TO", 8841),
   ("SUBSET OF WITH NOT EQUAL TO", 8842), ("SUPERSET OF WITH NOT EQUAL TO", 8843),
   ("MULTISET", 8844), ("MULTISET MULTIPLICATION", 8845), ("MULTISET UNION", 8846),
   ("SQUARE IMAGE OF", 8847), ("SQUARE ORIGINAL OF", 8848), ("SQUARE IMAGE OF OR EQUAL TO", 8849),
   ("SQUARE ORIGINAL OF OR EQUAL TO", 8850), ("SQUARE CAP", 8851), ("SQUARE CUP", 8852),
   ("CIRCLED PLUS", 8853), ("CIRCLED MINUS", 8854), ("CIRCLED TIMES", 8855),
   ("CIRCLED DIVISION SLASH", 8856), ("CIRCLED DOT OPERATOR", 8857),
   ("CIRCLED RING OPERATOR", 8858), ("CIRCLED ASTERISK OPERATOR", 8859), ("CIRCLED EQUALS", 8860),
   ("CIRCLED DASH", 8861), ("SQUARED PLUS", 8862), ("SQUARED MINUS", 8863),
   ("SQUARED TIMES", 8864), ("SQUARED DOT OPERATOR", 8865), ("RIGHT TACK", 8866),
   ("LEFT TACK", 8867), ("DOWN TACK", 8868), ("UP TACK", 8869), ("ASSERTION", 8870),
   ("MODELS", 8871), ("TRUE", 8872), ("FORCES", 8873),
   ("TRIPLE VERTICAL BAR RIGHT TURNSTILE", 8874),
   ("DOUBLE VERTICAL BAR DOUBLE RIGHT TURNSTILE", 8875), ("DOES NOT PROVE", 8876),
   ("NOT TRUE", 8877), ("DOES NOT FORCE", 8878),
   ("NEGATED DOUBLE VERTICAL BAR DOUBLE RIGHT TURNSTILE", 8879), ("PRECEDES UNDER RELATION", 8880),
   ("SUCCEEDS UNDER RELATION", 8881), ("NORMAL SUBGROUP OF", 8882),
   ("CONTAINS AS NORMAL SUBGROUP", 8883), ("NORMAL SUBGROUP OF OR EQUAL TO", 8884),
   ("CONTAINS AS NORMAL SUBGROUP OR EQUAL TO", 8885), ("ORIGINAL OF", 8886), ("IMAGE OF", 8887),
   ("MULTIMAP", 8888), ("HERMITIAN CONJUGATE MATRIX", 8889), ("INTERCALATE", 8890), ("XOR", 8891),
   ("NAND", 8892), ("NOR", 8893), ("RIGHT ANGLE WITH ARC", 8894), ("RIGHT TRIANGLE", 8895),
   ("N-ARY LOGICAL AND", 8896), ("N-ARY LOGICAL OR", 8897), ("N-ARY INTERSECTION", 8898),
   ("N-ARY UNION", 8899), ("DIAMOND OPERATOR", 8900), ("DOT OPERATOR", 8901),
   ("STAR OPERATOR", 8902), ("DIVISION TIMES", 8903), ("BOWTIE", 8904),
   ("LEFT NORMAL FACTOR SEMIDIRECT PRODUCT", 8905),
   ("RIGHT NORMAL FACTOR SEMIDIRECT PRODUCT", 8906), ("LEFT SEMIDIRECT PRODUCT", 8907),
   ("RIGHT SEMIDIRECT PRODUCT", 8908), ("REVERSED TILDE EQUALS", 8909), ("CURLY LOGICAL OR", 8910),
   ("CURLY LOGICAL AND", 8911), ("DOUBLE SUBSET", 8912), ("DOUBLE SUPERSET", 8913),
   ("DOUBLE INTERSECTION", 8914), ("DOUBLE UNION", 8915), ("PITCHFORK", 8916),
   ("EQUAL AND PARALLEL TO", 8917), ("LESS-THAN WITH DOT", 8918), ("GREATER-THAN WITH DOT", 8919),
   ("VERY MUCH LESS-THAN", 8920), ("VERY MUCH GREATER-THAN", 8921),
   ("LESS-THAN EQUAL TO OR GREATER-THAN", 8922), ("GREATER-THAN EQUAL TO OR LESS-THAN", 8923),
   ("EQUAL TO OR LESS-THAN", 8924), ("EQUAL TO OR GREATER-THAN", 8925),
   ("EQUAL TO OR PRECEDES", 8926), ("EQUAL TO OR SUCCEEDS", 8927),
   ("DOES NOT PRECEDE OR EQUAL", 8928), ("DOES NOT SUCCEED OR EQUAL", 8929),
   ("NOT SQUARE IMAGE OF OR EQUAL TO", 8930), ("NOT SQUARE ORIGINAL OF OR EQUAL TO", 8931),
   ("SQUARE IMAGE OF OR NOT EQUAL TO", 8932), ("SQUARE ORIGINAL OF OR NOT EQUAL TO", 8933),
   ("LESS-THAN BUT NOT EQUIVALENT TO", 8934), ("GREATER-THAN BUT NOT EQUIVALENT TO", 8935),
   ("PRECEDES BUT NOT EQUIVALENT TO", 8936), ("SUCCEEDS BUT NOT EQUIVALENT TO", 8937),
   ("NOT NORMAL SUBGROUP OF", 8938), ("DOES NOT CONTAIN AS NORMAL SUBGROUP", 8939),
   ("NOT NORMAL SUBGROUP OF OR EQUAL TO", 8940),
   ("DOES NOT CONTAIN AS NORMAL SUBGROUP OR EQUAL", 8941), ("VERTICAL ELLIPSIS", 8942),
   ("MIDLINE HORIZONTAL ELLIPSIS", 8943), ("UP RIGHT DIAGONAL ELLIPSIS", 8944),
   ("DOWN RIGHT DIAGONAL ELLIPSIS", 8945), ("ELEMENT OF WITH LONG HORIZONTAL STROKE", 8946),
   ("ELEMENT OF WITH VERTICAL BAR AT END OF HORIZONTAL STROKE", 8947),
   ("SMALL ELEMENT OF WITH VERTICAL BAR AT END OF HORIZONTAL STROKE", 8948),
   ("ELEMENT OF WITH DOT ABOVE", 8949), ("ELEMENT OF WITH OVERBAR", 8950),
   ("SMALL ELEMENT OF WITH OVERBAR", 8951), ("ELEMENT OF WITH UNDERBAR", 8952),
   ("ELEMENT OF WITH TWO HORIZONTAL STROKES", 8953),
   ("CONTAINS WITH LONG HORIZONTAL STROKE", 8954),
   ("CONTAINS WITH VERTICAL BAR AT END OF HORIZONTAL STROKE", 8955),
   ("SMALL CONTAINS WITH VERTICAL BAR AT END OF HORIZONTAL STROKE", 8956),
   ("CONTAINS WITH OVERBAR", 8957), ("SMALL CONTAINS WITH OVERBAR", 8958),
   ("Z NOTATION BAG MEMBERSHIP", 8959)]

/-- The names of enclosed numbers and letters. -/
def enclosedNames : List (String × Nat) :=
  [("CIRCLED DIGIT ONE", 9312), ("CIRCLED DIGIT TWO", 9313), ("CIRCLED DIGIT THREE", 9314),
   ("CIRCLED DIGIT FOUR", 9315), ("CIRCLED DIGIT FIVE", 9316), ("CIRCLED DIGIT SIX", 9317),
   ("CIRCLED DIGIT SEVEN", 9318), ("CIRCLED DIGIT EIGHT", 9319), ("CIRCLED DIGIT NINE", 9320),
   ("CIRCLED NUMBER TEN", 9321), ("CIRCLED NUMBER ELEVEN", 9322), ("CIRCLED NUMBER TWELVE", 9323),
   ("CIRCLED NUMBER THIRTEEN", 9324), ("CIRCLED NUMBER FOURTEEN", 9325),
   ("CIRCLED NUMBER FIFTEEN", 9326), ("CIRCLED NUMBER SIXTEEN", 9327),
   ("CIRCLED NUMBER SEVENTEEN", 9328), ("CIRCLED NUMBER EIGHTEEN", 9329),
   ("CIRCLED NUMBER NINETEEN", 9330), ("CIRCLED NUMBER TWENTY", 9331),
   ("PARENTHESIZED DIGIT ONE", 9332), ("PARENTHESIZED DIGIT TWO", 9333),
   ("PARENTHESIZED DIGIT THREE", 9334), ("PARENTHESIZED DIGIT FOUR", 9335),
   ("PARENTHESIZED DIGIT FIVE", 9336), ("PARENTHESIZED DIGIT SIX", 9337),
   ("PARENTHESIZED DIGIT SEVEN", 9338), ("PARENTHESIZED DIGIT EIGHT", 9339),
   ("PARENTHESIZED DIGIT NINE", 9340), ("PARENTHESIZED NUMBER TEN", 9341),
   ("PARENTHESIZED NUMBER ELEVEN", 9342), ("PARENTHESIZED NUMBER TWELVE", 9343),
   ("PARENTHESIZED NUMBER THIRTEEN", 9344), ("PARENTHESIZED NUMBER FOURTEEN", 9345),
   ("PARENTHESIZED NUMBER FIFTEEN", 9346), ("PARENTHESIZED NUMBER SIXTEEN", 9347),
   ("PARENTHESIZED NUMBER SEVENTEEN", 9348), ("PARENTHESIZED NUMBER EIGHTEEN", 9349),
   ("PARENTHESIZED NUMBER NINETEEN", 9350), ("PARENTHESIZED NUMBER TWENTY", 9351),
   ("DIGIT ONE FULL STOP", 9352), ("DIGIT TWO FULL STOP", 9353), ("DIGIT THREE FULL STOP", 9354),
   ("DIGIT FOUR FULL STOP", 9355), ("DIGIT FIVE FULL STOP", 9356), ("DIGIT SIX FULL STOP", 9357),
   ("DIGIT SEVEN FULL STOP", 9358), ("DIGIT EIGHT FULL STOP", 9359),
   ("DIGIT NINE FULL STOP", 9360), ("NUMBER TEN FULL STOP", 9361),
   ("NUMBER ELEVEN FULL STOP", 9362), ("NUMBER TWELVE FULL STOP", 9363),
   ("NUMBER THIRTEEN FULL STOP", 9364), ("NUMBER FOURTEEN FULL STOP", 9365),
   ("NUMBER FIFTEEN FULL STOP", 9366), ("NUMBER SIXTEEN FULL STOP", 9367),
   ("NUMBER SEVENTEEN FULL STOP", 9368), ("NUMBER EIGHTEEN FULL STOP", 9369),
   ("NUMBER NINETEEN FULL STOP", 9370), ("NUMBER TWENTY FULL STOP", 9371),
   ("PARENTHESIZED LATIN SMALL LETTER A", 9372), ("PARENTHESIZED LATIN SMALL LETTER B", 9373),
   ("PARENTHESIZED LATIN SMALL LETTER C", 9374), ("PARENTHESIZED LATIN SMALL LETTER D", 9375),
   ("PARENTHESIZED LATIN SMALL LETTER E", 9376), ("PARENTHESIZED LATIN SMALL LETTER F", 9377),
   ("PARENTHESIZED LATIN SMALL LETTER G", 9378), ("PARENTHESIZED LATIN SMALL LETTER H", 9379),
   ("PARENTHESIZED LATIN SMALL LETTER I", 9380), ("PARENTHESIZED LATIN SMALL LETTER J", 9381),
   ("PARENTHESIZED LATIN SMALL LETTER K", 9382), ("PARENTHESIZED LATIN SMALL LETTER L", 9383),
   ("PARENTHESIZED LATIN SMALL LETTER M", 9384), ("PARENTHESIZED LATIN SMALL LETTER N", 9385),
   ("PARENTHESIZED LATIN SMALL LETTER O", 9386), ("PARENTHESIZED LATIN SMALL LETTER P", 9387),
   ("PARENTHESIZED LATIN SMALL LETTER Q", 9388), ("PARENTHESIZED LATIN SMALL LETTER R", 9389),
   ("PARENTHESIZED LATIN SMALL LETTER S", 9390), ("PARENTHESIZED LATIN SMALL LETTER T", 9391),
   ("PARENTHESIZED LATIN SMALL LETTER U", 9392), ("PARENTHESIZED LATIN SMALL LETTER V", 9393),
   ("PARENTHESIZED LATIN SMALL LETTER W", 9394), ("PARENTHESIZED LATIN SMALL LETTER X", 9395),
   ("PARENTHESIZED LATIN SMALL LETTER Y", 9396), ("PARENTHESIZED LATIN SMALL LETTER Z", 9397),
   ("CIRCLED LATIN CAPITAL LETTER A", 9398), ("CIRCLED LATIN CAPITAL LETTER B", 9399),
   ("CIRCLED LATIN CAPITAL LETTER C", 9400), ("CIRCLED LATIN CAPITAL LETTER D", 9401),
   ("CIRCLED LATIN CAPITAL LETTER E", 9402), ("CIRCLED LATIN CAPITAL LETTER F", 9403),
   ("CIRCLED LATIN CAPITAL LETTER G", 9404), ("CIRCLED LATIN CAPITAL LETTER H", 9405),
   ("CIRCLED LATIN CAPITAL LETTER I", 9406), ("CIRCLED LATIN CAPITAL LETTER J", 9407),
   ("CIRCLED LATIN CAPITAL LETTER K", 9408), ("CIRCLED LATIN CAPITAL LETTER L", 9409),
   ("CIRCLED LATIN CAPITAL LETTER M", 9410), ("CIRCLED LATIN CAPITAL LETTER N", 9411),
   ("CIRCLED LATIN CAPITAL LETTER O", 9412), ("CIRCLED LATIN CAPITAL LETTER P", 9413),
   ("CIRCLED LATIN CAPITAL LETTER Q", 9414), ("CIRCLED LATIN CAPITAL LETTER R", 9415),
   ("CIRCLED LATIN CAPITAL LETTER S", 9416), ("CIRCLED LATIN CAPITAL LETTER T", 9417),
   ("CIRCLED LATIN CAPITAL LETTER U", 9418), ("CIRCLED LATIN CAPITAL LETTER V", 9419),
   ("CIRCLED LATIN CAPITAL LETTER W", 9420), ("CIRCLED LATIN CAPITAL LETTER X", 9421),
   ("CIRCLED LATIN CAPITAL LETTER Y", 9422), ("CIRCLED LATIN CAPITAL LETTER Z", 9423),
   ("CIRCLED LATIN SMALL LETTER A", 9424), ("CIRCLED LATIN SMALL LETTER B", 9425),
   ("CIRCLED LATIN SMALL LETTER C", 9426), ("CIRCLED LATIN SMALL LETTER D", 9427),
   ("CIRCLED LATIN SMALL LETTER E", 9428), ("CIRCLED LATIN SMALL LETTER F", 9429),
   ("CIRCLED LATIN SMALL LETTER G", 9430), ("CIRCLED LATIN SMALL LETTER H", 9431),
   ("CIRCLED LATIN SMALL LETTER I", 9432), ("CIRCLED LATIN SMALL LETTER J", 9433),
   ("CIRCLED LATIN SMALL LETTER K", 9434), ("CIRCLED LATIN SMALL LETTER L", 9435),
   ("CIRCLED LATIN SMALL LETTER M", 9436), ("CIRCLED LATIN SMALL LETTER N", 9437),
   ("CIRCLED LATIN SMALL LETTER O", 9438), ("CIRCLED LATIN SMALL LETTER P", 9439),
   ("CIRCLED LATIN SMALL LETTER Q", 9440), ("CIRCLED LATIN SMALL LETTER R", 9441),
   ("CIRCLED LATIN SMALL LETTER S", 9442), ("CIRCLED LATIN SMALL LETTER T", 9443),
   ("CIRCLED LATIN SMALL LETTER U", 9444), ("CIRCLED LATIN SMALL LETTER V", 9445),
   ("CIRCLED LATIN SMALL LETTER W", 9446), ("CIRCLED LATIN SMALL LETTER X", 9447),
   ("CIRCLED LATIN SMALL LETTER Y", 9448), ("CIRCLED LATIN SMALL LETTER Z", 9449),
   ("CIRCLED DIGIT ZERO", 9450), ("NEGATIVE CIRCLED NUMBER ELEVEN", 9451),
   ("NEGATIVE CIRCLED NUMBER TWELVE", 9452), ("NEGATIVE CIRCLED NUMBER THIRTEEN", 9453),
   ("NEGATIVE CIRCLED NUMBER FOURTEEN", 9454), ("NEGATIVE CIRCLED NUMBER FIFTEEN", 9455),
   ("NEGATIVE CIRCLED NUMBER SIXTEEN", 9456), ("NEGATIVE CIRCLED NUMBER SEVENTEEN", 9457),
   ("NEGATIVE CIRCLED NUMBER EIGHTEEN", 9458), ("NEGATIVE CIRCLED NUMBER NINETEEN", 9459),
   ("NEGATIVE CIRCLED NUMBER TWENTY", 9460), ("DOUBLE CIRCLED DIGIT ONE", 9461),
   ("DOUBLE CIRCLED DIGIT TWO", 9462), ("DOUBLE CIRCLED DIGIT THREE", 9463),
   ("DOUBLE CIRCLED DIGIT FOUR", 9464), ("DOUBLE CIRCLED DIGIT FIVE", 9465),
   ("DOUBLE CIRCLED DIGIT SIX", 9466), ("DOUBLE CIRCLED DIGIT SEVEN", 9467),
   ("DOUBLE CIRCLED DIGIT EIGHT", 9468), ("DOUBLE CIRCLED DIGIT NINE", 9469),
   ("DOUBLE CIRCLED NUMBER TEN", 9470), ("NEGATIVE CIRCLED DIGIT ZERO", 9471)]

/-- The names of lines, blocks and shapes. -/
def drawingNames : List (String × Nat) :=
  [("BOX DRAWINGS LIGHT HORIZONTAL", 9472), ("BOX DRAWINGS HEAVY HORIZONTAL", 9473),
   ("BOX DRAWINGS LIGHT VERTICAL", 9474), ("BOX DRAWINGS HEAVY VERTICAL", 9475),
   ("BOX DRAWINGS LIGHT TRIPLE DASH HORIZONTAL", 9476),
   ("BOX DRAWINGS HEAVY TRIPLE DASH HORIZONTAL", 9477),
   ("BOX DRAWINGS LIGHT TRIPLE DASH VERTICAL", 9478),
   ("BOX DRAWINGS HEAVY TRIPLE DASH VERTICAL", 9479),
   ("BOX DRAWINGS LIGHT QUADRUPLE DASH HORIZONTAL", 9480),
   ("BOX DRAWINGS HEAVY QUADRUPLE DASH HORIZONTAL", 9481),
   ("BOX DRAWINGS LIGHT QUADRUPLE DASH VERTICAL", 9482),
   ("BOX DRAWINGS HEAVY QUADRUPLE DASH VERTICAL", 9483),
   ("BOX DRAWINGS LIGHT DOWN AND RIGHT", 9484), ("BOX DRAWINGS DOWN LIGHT AND RIGHT HEAVY", 9485),
   ("BOX DRAWINGS DOWN HEAVY AND RIGHT LIGHT", 9486), ("BOX DRAWINGS HEAVY DOWN AND RIGHT", 9487),
   ("BOX DRAWINGS LIGHT DOWN AND LEFT", 9488), ("BOX DRAWINGS DOWN LIGHT AND LEFT HEAVY", 9489),
   ("BOX DRAWINGS DOWN HEAVY AND LEFT LIGHT", 9490), ("BOX DRAWINGS HEAVY DOWN AND LEFT", 9491),
   ("BOX DRAWINGS LIGHT UP AND RIGHT", 9492), ("BOX DRAWINGS UP LIGHT AND RIGHT HEAVY", 9493),
   ("BOX DRAWINGS UP HEAVY AND RIGHT LIGHT", 9494), ("BOX DRAWINGS HEAVY UP AND RIGHT", 9495),
   ("BOX DRAWINGS LIGHT UP AND LEFT", 9496), ("BOX DRAWINGS UP LIGHT AND LEFT HEAVY", 9497),
   ("BOX DRAWINGS UP HEAVY AND LEFT LIGHT", 9498), ("BOX DRAWINGS HEAVY UP AND LEFT", 9499),
   ("BOX DRAWINGS LIGHT VERTICAL AND RIGHT", 9500),
   ("BOX DRAWINGS VERTICAL LIGHT AND RIGHT HEAVY", 9501),
   ("BOX DRAWINGS UP HEAVY AND RIGHT DOWN LIGHT", 9502),
   ("BOX DRAWINGS DOWN HEAVY AND RIGHT UP LIGHT", 9503),
   ("BOX DRAWINGS VERTICAL HEAVY AND RIGHT LIGHT", 9504),
   ("BOX DRAWINGS DOWN LIGHT AND RIGHT UP HEAVY", 9505),
   ("BOX DRAWINGS UP LIGHT AND RIGHT DOWN HEAVY", 9506),
   ("BOX DRAWINGS HEAVY VERTICAL AND RIGHT", 9507), ("BOX DRAWINGS LIGHT VERTICAL AND LEFT", 9508),
   ("BOX DRAWINGS VERTICAL LIGHT AND LEFT HEAVY", 9509),
   ("BOX DRAWINGS UP HEAVY AND LEFT DOWN LIGHT", 9510),
   ("BOX DRAWINGS DOWN HEAVY AND LEFT UP LIGHT", 9511),
   ("BOX DRAWINGS VERTICAL HEAVY AND LEFT LIGHT", 9512),
   ("BOX DRAWINGS DOWN LIGHT AND LEFT UP HEAVY", 9513),
   ("BOX DRAWINGS UP LIGHT AND LEFT DOWN HEAVY", 9514),
   ("BOX DRAWINGS HEAVY VERTICAL AND LEFT", 9515),
   ("BOX DRAWINGS LIGHT DOWN AND HORIZONTAL", 9516),
   ("BOX DRAWINGS LEFT HEAVY AND RIGHT DOWN LIGHT", 9517),
   ("BOX DRAWINGS RIGHT HEAVY AND LEFT DOWN LIGHT", 9518),
   ("BOX DRAWINGS DOWN LIGHT AND HORIZONTAL HEAVY", 9519),
   ("BOX DRAWINGS DOWN HEAVY AND HORIZONTAL LIGHT", 9520),
   ("BOX DRAWINGS RIGHT LIGHT AND LEFT DOWN HEAVY", 9521),
   ("BOX DRAWINGS LEFT LIGHT AND RIGHT DOWN HEAVY", 9522),
   ("BOX DRAWINGS HEAVY DOWN AND HORIZONTAL", 9523),
   ("BOX DRAWINGS LIGHT UP AND HORIZONTAL", 9524),
   ("BOX DRAWINGS LEFT HEAVY AND RIGHT UP LIGHT", 9525),
   ("BOX DRAWINGS RIGHT HEAVY AND LEFT UP LIGHT", 9526),
   ("BOX DRAWINGS UP LIGHT AND HORIZONTAL HEAVY", 9527),
   ("BOX DRAWINGS UP HEAVY AND HORIZONTAL LIGHT", 9528),
   ("BOX DRAWINGS RIGHT LIGHT AND LEFT UP HEAVY", 9529),
   ("BOX DRAWINGS LEFT LIGHT AND RIGHT UP HEAVY", 9530),
   ("BOX DRAWINGS HEAVY UP AND HORIZONTAL", 9531),
   ("BOX DRAWINGS LIGHT VERTICAL AND HORIZONTAL", 9532),
   ("BOX DRAWINGS LEFT HEAVY AND RIGHT VERTICAL LIGHT", 9533),
   ("BOX DRAWINGS RIGHT HEAVY AND LEFT VERTICAL LIGHT", 9534),
   ("BOX DRAWINGS VERTICAL LIGHT AND HORIZONTAL HEAVY", 9535),
   ("BOX DRAWINGS UP HEAVY AND DOWN HORIZONTAL LIGHT", 9536),
   ("BOX DRAWINGS DOWN HEAVY AND UP HORIZONTAL LIGHT", 9537),
   ("BOX DRAWINGS VERTICAL HEAVY AND HORIZONTAL LIGHT", 9538),
   ("BOX DRAWINGS LEFT UP HEAVY AND RIGHT DOWN LIGHT", 9539),
   ("BOX DRAWINGS RIGHT UP HEAVY AND LEFT DOWN LIGHT", 9540),
   ("BOX DRAWINGS LEFT DOWN HEAVY AND RIGHT UP LIGHT", 9541),
   ("BOX DRAWINGS RIGHT DOWN HEAVY AND LEFT UP LIGHT", 9542),
   ("BOX DRAWINGS DOWN LIGHT AND UP HORIZONTAL HEAVY", 9543),
   ("BOX DRAWINGS UP LIGHT AND DOWN HORIZONTAL HEAVY", 9544),
   ("BOX DRAWINGS RIGHT LIGHT AND LEFT VERTICAL HEAVY", 9545),
   ("BOX DRAWINGS LEFT LIGHT AND RIGHT VERTICAL HEAVY", 9546),
   ("BOX DRAWINGS HEAVY VERTICAL AND HORIZONTAL", 9547),
   ("BOX DRAWINGS LIGHT DOUBLE DASH HORIZONTAL", 9548),
   ("BOX DRAWINGS HEAVY DOUBLE DASH HORIZONTAL", 9549),
   ("BOX DRAWINGS LIGHT DOUBLE DASH VERTICAL", 9550),
   ("BOX DRAWINGS HEAVY DOUBLE DASH VERTICAL", 9551), ("BOX DRAWINGS DOUBLE HORIZONTAL", 9552),
   ("BOX DRAWINGS DOUBLE VERTICAL", 9553), ("BOX DRAWINGS DOWN SINGLE AND RIGHT DOUBLE", 9554),
   ("BOX DRAWINGS DOWN DOUBLE AND RIGHT SINGLE", 9555),
   ("BOX DRAWINGS DOUBLE DOWN AND RIGHT", 9556),
   ("BOX DRAWINGS DOWN SINGLE AND LEFT DOUBLE", 9557),
   ("BOX DRAWINGS DOWN DOUBLE AND LEFT SINGLE", 9558), ("BOX DRAWINGS DOUBLE DOWN AND LEFT", 9559),
   ("BOX DRAWINGS UP SINGLE AND RIGHT DOUBLE", 9560),
   ("BOX DRAWINGS UP DOUBLE AND RIGHT SINGLE", 9561), ("BOX DRAWINGS DOUBLE UP AND RIGHT", 9562),
   ("BOX DRAWINGS UP SINGLE AND LEFT DOUBLE", 9563),
   ("BOX DRAWINGS UP DOUBLE AND LEFT SINGLE", 9564), ("BOX DRAWINGS DOUBLE UP AND LEFT", 9565),
   ("BOX DRAWINGS VERTICAL SINGLE AND RIGHT DOUBLE", 9566),
   ("BOX DRAWINGS VERTICAL DOUBLE AND RIGHT SINGLE", 9567),
   ("BOX DRAWINGS DOUBLE VERTICAL AND RIGHT", 9568),
   ("BOX DRAWINGS VERTICAL SINGLE AND LEFT DOUBLE", 9569),
   ("BOX DRAWINGS VERTICAL DOUBLE AND LEFT SINGLE", 9570),
   ("BOX DRAWINGS DOUBLE VERTICAL AND LEFT", 9571),
   ("BOX DRAWINGS DOWN SINGLE AND HORIZONTAL DOUBLE", 9572),
   ("BOX DRAWINGS DOWN DOUBLE AND HORIZONTAL SINGLE", 9573),
   ("BOX DRAWINGS DOUBLE DOWN AND HORIZONTAL", 9574),
   ("BOX DRAWINGS UP SINGLE AND HORIZONTAL DOUBLE", 9575),
   ("BOX DRAWINGS UP DOUBLE AND HORIZONTAL SINGLE", 9576),
   ("BOX DRAWINGS DOUBLE UP AND HORIZONTAL", 9577),
   ("BOX DRAWINGS VERTICAL SINGLE AND HORIZONTAL DOUBLE", 9578),
   ("BOX DRAWINGS VERTICAL DOUBLE AND HORIZONTAL SINGLE", 9579),
   ("BOX DRAWINGS DOUBLE VERTICAL AND HORIZONTAL", 9580),
   ("BOX DRAWINGS LIGHT ARC DOWN AND RIGHT", 9581), ("BOX DRAWINGS LIGHT ARC DOWN AND LEFT", 9582),
   ("BOX DRAWINGS LIGHT ARC UP AND LEFT", 9583), ("BOX DRAWINGS LIGHT ARC UP AND RIGHT", 9584),
   ("BOX DRAWINGS LIGHT DIAGONAL UPPER RIGHT TO LOWER LEFT", 9585),
   ("BOX DRAWINGS LIGHT DIAGONAL UPPER LEFT TO LOWER RIGHT", 9586),
   ("BOX DRAWINGS LIGHT DIAGONAL CROSS", 9587), ("BOX DRAWINGS LIGHT LEFT", 9588),
   ("BOX DRAWINGS LIGHT UP", 9589), ("BOX DRAWINGS LIGHT RIGHT", 9590),
   ("BOX DRAWINGS LIGHT DOWN", 9591), ("BOX DRAWINGS HEAVY LEFT", 9592),
   ("BOX DRAWINGS HEAVY UP", 9593), ("BOX DRAWINGS HEAVY RIGHT", 9594),
   ("BOX DRAWINGS HEAVY DOWN", 9595), ("BOX DRAWINGS LIGHT LEFT AND HEAVY RIGHT", 9596),
   ("BOX DRAWINGS LIGHT UP AND HEAVY DOWN", 9597),
   ("BOX DRAWINGS HEAVY LEFT AND LIGHT RIGHT", 9598),
   ("BOX DRAWINGS HEAVY UP AND LIGHT DOWN", 9599), ("UPPER HALF BLOCK", 9600),
   ("LOWER ONE EIGHTH BLOCK", 9601), ("LOWER ONE QUARTER BLOCK", 9602),
   ("LOWER THREE EIGHTHS BLOCK", 9603), ("LOWER HALF BLOCK", 9604),
   ("LOWER FIVE EIGHTHS BLOCK", 9605), ("LOWER THREE QUARTERS BLOCK", 9606),
   ("LOWER SEVEN EIGHTHS BLOCK", 9607), ("FULL BLOCK", 9608), ("LEFT SEVEN EIGHTHS BLOCK", 9609),
   ("LEFT THREE QUARTERS BLOCK", 9610), ("LEFT FIVE EIGHTHS BLOCK", 9611),
   ("LEFT HALF BLOCK", 9612), ("LEFT THREE EIGHTHS BLOCK", 9613), ("LEFT ONE QUARTER BLOCK", 9614),
   ("LEFT ONE EIGHTH BLOCK", 9615), ("RIGHT HALF BLOCK", 9616), ("LIGHT SHADE", 9617),
   ("MEDIUM SHADE", 9618), ("DARK SHADE", 9619), ("UPPER ONE EIGHTH BLOCK", 9620),
   ("RIGHT ONE EIGHTH BLOCK", 9621), ("QUADRANT LOWER LEFT", 9622), ("QUADRANT LOWER RIGHT", 9623),
   ("QUADRANT UPPER LEFT", 9624), ("QUADRANT UPPER LEFT AND LOWER LEFT AND LOWER RIGHT", 9625),
   ("QUADRANT UPPER LEFT AND LOWER RIGHT", 9626),
   ("QUADRANT UPPER LEFT AND UPPER RIGHT AND LOWER LEFT", 9627),
   ("QUADRANT UPPER LEFT AND UPPER RIGHT AND LOWER RIGHT", 9628), ("QUADRANT UPPER RIGHT", 9629),
   ("QUADRANT UPPER RIGHT AND LOWER LEFT", 9630),
   ("QUADRANT UPPER RIGHT AND LOWER LEFT AND LOWER RIGHT", 9631), ("BLACK SQUARE", 9632),
   ("WHITE SQUARE", 9633), ("WHITE SQUARE WITH ROUNDED CORNERS", 9634),
   ("WHITE SQUARE CONTAINING BLACK SMALL SQUARE", 9635), ("SQUARE WITH HORIZONTAL FILL", 9636),
   ("SQUARE WITH VERTICAL FILL", 9637), ("SQUARE WITH ORTHOGONAL CROSSHATCH FILL", 9638),
   ("SQUARE WITH UPPER LEFT TO LOWER RIGHT FILL", 9639),
   ("SQUARE WITH UPPER RIGHT TO LOWER LEFT FILL", 9640),
   ("SQUARE WITH DIAGONAL CROSSHATCH FILL", 9641), ("BLACK SMALL SQUARE", 9642),
   ("WHITE SMALL SQUARE", 9643), ("BLACK RECTANGLE", 9644), ("WHITE RECTANGLE", 9645),
   ("BLACK VERTICAL RECTANGLE", 9646), ("WHITE VERTICAL RECTANGLE", 9647),
   ("BLACK PARALLELOGRAM", 9648), ("WHITE PARALLELOGRAM", 9649),
   ("BLACK UP-POINTING TRIANGLE", 9650), ("WHITE UP-POINTING TRIANGLE", 9651),
   ("BLACK UP-POINTING SMALL TRIANGLE", 9652), ("WHITE UP-POINTING SMALL TRIANGLE", 9653),
   ("BLACK RIGHT-POINTING TRIANGLE", 9654), ("WHITE RIGHT-POINTING TRIANGLE", 9655),
   ("BLACK RIGHT-POINTING SMALL TRIANGLE", 9656), ("WHITE RIGHT-POINTING SMALL TRIANGLE", 9657),
   ("BLACK RIGHT-POINTING POINTER", 9658), ("WHITE RIGHT-POINTING POINTER", 9659),
   ("BLACK DOWN-POINTING TRIANGLE", 9660), ("WHITE DOWN-POINTING TRIANGLE", 9661),
   ("BLACK DOWN-POINTING SMALL TRIANGLE", 9662), ("WHITE DOWN-POINTING SMALL TRIANGLE", 9663),
   ("BLACK LEFT-POINTING TRIANGLE", 9664), ("WHITE LEFT-POINTING TRIANGLE", 9665),
   ("BLACK LEFT-POINTING SMALL TRIANGLE", 9666), ("WHITE LEFT-POINTING SMALL TRIANGLE", 9667),
   ("BLACK LEFT-POINTING POINTER", 9668), ("WHITE LEFT-POINTING POINTER", 9669),
   ("BLACK DIAMOND", 9670), ("WHITE DIAMOND", 9671),
   ("WHITE DIAMOND CONTAINING BLACK SMALL DIAMOND", 9672), ("FISHEYE", 9673), ("LOZENGE", 9674),
   ("WHITE CIRCLE", 9675), ("DOTTED CIRCLE", 9676), ("CIRCLE WITH VERTICAL FILL", 9677),
   ("BULLSEYE", 9678), ("BLACK CIRCLE", 9679), ("CIRCLE WITH LEFT HALF BLACK", 9680),
   ("CIRCLE WITH RIGHT HALF BLACK", 9681), ("CIRCLE WITH LOWER HALF BLACK", 9682),
   ("CIRCLE WITH UPPER HALF BLACK", 9683), ("CIRCLE WITH UPPER RIGHT QUADRANT BLACK", 9684),
   ("CIRCLE WITH ALL BUT UPPER LEFT QUADRANT BLACK", 9685), ("LEFT HALF BLACK CIRCLE", 9686),
   ("RIGHT HALF BLACK CIRCLE", 9687), ("INVERSE BULLET", 9688), ("INVERSE WHITE CIRCLE", 9689),
   ("UPPER HALF INVERSE WHITE CIRCLE", 9690), ("LOWER HALF INVERSE WHITE CIRCLE", 9691),
   ("UPPER LEFT QUADRANT CIRCULAR ARC", 9692), ("UPPER RIGHT QUADRANT CIRCULAR ARC", 9693),
   ("LOWER RIGHT QUADRANT CIRCULAR ARC", 9694), ("LOWER LEFT QUADRANT CIRCULAR ARC", 9695),
   ("UPPER HALF CIRCLE", 9696), ("LOWER HALF CIRCLE", 9697), ("BLACK LOWER RIGHT TRIANGLE", 9698),
   ("BLACK LOWER LEFT TRIANGLE", 9699), ("BLACK UPPER LEFT TRIANGLE", 9700),
   ("BLACK UPPER RIGHT TRIANGLE", 9701), ("WHITE BULLET", 9702),
   ("SQUARE WITH LEFT HALF BLACK", 9703), ("SQUARE WITH RIGHT HALF BLACK", 9704),
   ("SQUARE WITH UPPER LEFT DIAGONAL HALF BLACK", 9705),
   ("SQUARE WITH LOWER RIGHT DIAGONAL HALF BLACK", 9706),
   ("WHITE SQUARE WITH VERTICAL BISECTING LINE", 9707),
   ("WHITE UP-POINTING TRIANGLE WITH DOT", 9708),
   ("UP-POINTING TRIANGLE WITH LEFT HALF BLACK", 9709),
   ("UP-POINTING TRIANGLE WITH RIGHT HALF BLACK", 9710), ("LARGE CIRCLE", 9711),
   ("WHITE SQUARE WITH UPPER LEFT QUADRANT", 9712),
   ("WHITE SQUARE WITH LOWER LEFT QUADRANT", 9713),
   ("WHITE SQUARE WITH LOWER RIGHT QUADRANT", 9714),
   ("WHITE SQUARE WITH UPPER RIGHT QUADRANT", 9715),
   ("WHITE CIRCLE WITH UPPER LEFT QUADRANT", 9716),
   ("WHITE CIRCLE WITH LOWER LEFT QUADRANT", 9717),
   ("WHITE CIRCLE WITH LOWER RIGHT QUADRANT", 9718),
   ("WHITE CIRCLE WITH UPPER RIGHT QUADRANT", 9719), ("UPPER LEFT TRIANGLE", 9720),
   ("UPPER RIGHT TRIANGLE", 9721), ("LOWER LEFT TRIANGLE", 9722), ("WHITE MEDIUM SQUARE", 9723),
   ("BLACK MEDIUM SQUARE", 9724), ("WHITE MEDIUM SMALL SQUARE", 9725),
   ("BLACK MEDIUM SMALL SQUARE", 9726), ("LOWER RIGHT TRIANGLE", 9727)]

/-- The names of miscellaneous symbols. -/
def symbolNames : List (String × Nat) :=
  [("BLACK SUN WITH RAYS", 9728), ("CLOUD", 9729), ("UMBRELLA", 9730), ("SNOWMAN", 9731),
   ("COMET", 9732), ("BLACK STAR", 9733), ("WHITE STAR", 9734), ("LIGHTNING", 9735),
   ("THUNDERSTORM", 9736), ("SUN", 9737), ("ASCENDING NODE", 9738), ("DESCENDING NODE", 9739),
   ("CONJUNCTION", 9740), ("OPPOSITION", 9741), ("BLACK TELEPHONE", 9742),
   ("WHITE TELEPHONE", 9743), ("BALLOT BOX", 9744), ("BALLOT BOX WITH CHECK", 9745),
   ("BALLOT BOX WITH X", 9746), ("SALTIRE", 9747), ("UMBRELLA WITH RAIN DROPS", 9748),
   ("HOT BEVERAGE", 9749), ("WHITE SHOGI PIECE", 9750), ("BLACK SHOGI PIECE", 9751),
   ("SHAMROCK", 9752), ("REVERSED ROTATED FLORAL HEART BULLET", 9753),
   ("BLACK LEFT POINTING INDEX", 9754), ("BLACK RIGHT POINTING INDEX", 9755),
   ("WHITE LEFT POINTING INDEX", 9756), ("WHITE UP POINTING INDEX", 9757),
   ("WHITE RIGHT POINTING INDEX", 9758), ("WHITE DOWN POINTING INDEX", 9759),
   ("SKULL AND CROSSBONES", 9760), ("CAUTION SIGN", 9761), ("RADIOACTIVE SIGN", 9762),
   ("BIOHAZARD SIGN", 9763), ("CADUCEUS", 9764), ("ANKH", 9765), ("ORTHODOX CROSS", 9766),
   ("CHI RHO", 9767), ("CROSS OF LORRAINE", 9768), ("CROSS OF JERUSALEM", 9769),
   ("STAR AND CRESCENT", 9770), ("FARSI SYMBOL", 9771), ("ADI SHAKTI", 9772),
   ("HAMMER AND SICKLE", 9773), ("PEACE SYMBOL", 9774), ("YIN YANG", 9775),
   ("TRIGRAM FOR HEAVEN", 9776), ("TRIGRAM FOR LAKE", 9777), ("TRIGRAM FOR FIRE", 9778),
   ("TRIGRAM FOR THUNDER", 9779), ("TRIGRAM FOR WIND", 9780), ("TRIGRAM FOR WATER", 9781),
   ("TRIGRAM FOR MOUNTAIN", 9782), ("TRIGRAM FOR EARTH", 9783), ("WHEEL OF DHARMA", 9784),
   ("WHITE FROWNING FACE", 9785), ("WHITE SMILING FACE", 9786), ("BLACK SMILING FACE", 9787),
   ("WHITE SUN WITH RAYS", 9788), ("FIRST QUARTER MOON", 9789), ("LAST QUARTER MOON", 9790),
   ("MERCURY", 9791), ("FEMALE SIGN", 9792), ("EARTH", 9793), ("MALE SIGN", 9794),
   ("JUPITER", 9795), ("SATURN", 9796), ("URANUS", 9797), ("NEPTUNE", 9798), ("PLUTO", 9799),
   ("ARIES", 9800), ("TAURUS", 9801), ("GEMINI", 9802), ("CANCER", 9803), ("LEO", 9804),
   ("VIRGO", 9805), ("LIBRA", 9806), ("SCORPIUS", 9807), ("SAGITTARIUS", 9808),
   ("CAPRICORN", 9809), ("AQUARIUS", 9810), ("PISCES", 9811), ("WHITE CHESS KING", 9812),
   ("WHITE CHESS QUEEN", 9813), ("WHITE CHESS ROOK", 9814), ("WHITE CHESS BISHOP", 9815),
   ("WHITE CHESS KNIGHT", 9816), ("WHITE CHESS PAWN", 9817), ("BLACK CHESS KING", 9818),
   ("BLACK CHESS QUEEN", 9819), ("BLACK CHESS ROOK", 9820), ("BLACK CHESS BISHOP", 9821),
   ("BLACK CHESS KNIGHT", 9822), ("BLACK CHESS PAWN", 9823), ("BLACK SPADE SUIT", 9824),
   ("WHITE HEART SUIT", 9825), ("WHITE DIAMOND SUIT", 9826), ("BLACK CLUB SUIT", 9827),
   ("WHITE SPADE SUIT", 9828), ("BLACK HEART SUIT", 9829), ("BLACK DIAMOND SUIT", 9830),
   ("WHITE CLUB SUIT", 9831), ("HOT SPRINGS", 9832), ("QUARTER NOTE", 9833), ("EIGHTH NOTE", 9834),
   ("BEAMED EIGHTH NOTES", 9835), ("BEAMED SIXTEENTH NOTES", 9836), ("MUSIC FLAT SIGN", 9837),
   ("MUSIC NATURAL SIGN", 9838), ("MUSIC SHARP SIGN", 9839), ("WEST SYRIAC CROSS", 9840),
   ("EAST SYRIAC CROSS", 9841), ("UNIVERSAL RECYCLING SYMBOL", 9842),
   ("RECYCLING SYMBOL FOR TYPE-1 PLASTICS", 9843), ("RECYCLING SYMBOL FOR TYPE-2 PLASTICS", 9844),
   ("RECYCLING SYMBOL FOR TYPE-3 PLASTICS", 9845), ("RECYCLING SYMBOL FOR TYPE-4 PLASTICS", 9846),
   ("RECYCLING SYMBOL FOR TYPE-5 PLASTICS", 9847), ("RECYCLING SYMBOL FOR TYPE-6 PLASTICS", 9848),
   ("RECYCLING SYMBOL FOR TYPE-7 PLASTICS", 9849),
   ("RECYCLING SYMBOL FOR GENERIC MATERIALS", 9850), ("BLACK UNIVERSAL RECYCLING SYMBOL", 9851),
   ("RECYCLED PAPER SYMBOL", 9852), ("PARTIALLY-RECYCLED PAPER SYMBOL", 9853),
   ("PERMANENT PAPER SIGN", 9854), ("WHEELCHAIR SYMBOL", 9855), ("DIE FACE-1", 9856),
   ("DIE FACE-2", 9857), ("DIE FACE-3", 9858), ("DIE FACE-4", 9859), ("DIE FACE-5", 9860),
   ("DIE FACE-6", 9861), ("WHITE CIRCLE WITH DOT RIGHT", 9862),
   ("WHITE CIRCLE WITH TWO DOTS", 9863), ("BLACK CIRCLE WITH WHITE DOT RIGHT", 9864),
   ("BLACK CIRCLE WITH TWO WHITE DOTS", 9865), ("MONOGRAM FOR YANG", 9866),
   ("MONOGRAM FOR YIN", 9867), ("DIGRAM FOR GREATER YANG", 9868), ("DIGRAM FOR LESSER YIN", 9869),
   ("DIGRAM FOR LESSER YANG", 9870), ("DIGRAM FOR GREATER YIN", 9871), ("WHITE FLAG", 9872),
   ("BLACK FLAG", 9873), ("HAMMER AND PICK", 9874), ("ANCHOR", 9875), ("CROSSED SWORDS", 9876),
   ("STAFF OF AESCULAPIUS", 9877), ("SCALES", 9878), ("ALEMBIC", 9879), ("FLOWER", 9880),
   ("GEAR", 9881), ("STAFF OF HERMES", 9882), ("ATOM SYMBOL", 9883), ("FLEUR-DE-LIS", 9884),
   ("OUTLINED WHITE STAR", 9885), ("THREE LINES CONVERGING RIGHT", 9886),
   ("THREE LINES CONVERGING LEFT", 9887), ("WARNING SIGN", 9888), ("HIGH VOLTAGE SIGN", 9889),
   ("DOUBLED FEMALE SIGN", 9890), ("DOUBLED MALE SIGN", 9891),
   ("INTERLOCKED FEMALE AND MALE SIGN", 9892), ("MALE AND FEMALE SIGN", 9893),
   ("MALE WITH STROKE SIGN", 9894), ("MALE WITH STROKE AND MALE AND FEMALE SIGN", 9895),
   ("VERTICAL MALE WITH STROKE SIGN", 9896), ("HORIZONTAL MALE WITH STROKE SIGN", 9897),
   ("MEDIUM WHITE CIRCLE", 9898), ("MEDIUM BLACK CIRCLE", 9899),
   ("MEDIUM SMALL WHITE CIRCLE", 9900), ("MARRIAGE SYMBOL", 9901), ("DIVORCE SYMBOL", 9902),
   ("UNMARRIED PARTNERSHIP SYMBOL", 9903), ("COFFIN", 9904), ("FUNERAL URN", 9905),
   ("NEUTER", 9906), ("CERES", 9907), ("PALLAS", 9908), ("JUNO", 9909), ("VESTA", 9910),
   ("CHIRON", 9911), ("BLACK MOON LILITH", 9912), ("SEXTILE", 9913), ("SEMISEXTILE", 9914),
   ("QUINCUNX", 9915), ("SESQUIQUADRATE", 9916), ("SOCCER BALL", 9917), ("BASEBALL", 9918),
   ("SQUARED KEY", 9919), ("WHITE DRAUGHTS MAN", 9920), ("WHITE DRAUGHTS KING", 9921),
   ("BLACK DRAUGHTS MAN", 9922), ("BLACK DRAUGHTS KING", 9923), ("SNOWMAN WITHOUT SNOW", 9924),
   ("SUN BEHIND CLOUD", 9925), ("RAIN", 9926), ("BLACK SNOWMAN", 9927),
   ("THUNDER CLOUD AND RAIN", 9928), ("TURNED WHITE SHOGI PIECE", 9929),
   ("TURNED BLACK SHOGI PIECE", 9930), ("WHITE DIAMOND IN SQUARE", 9931), ("CROSSING LANES", 9932),
   ("DISABLED CAR", 9933), ("OPHIUCHUS", 9934), ("PICK", 9935), ("CAR SLIDING", 9936),
   ("HELMET WITH WHITE CROSS", 9937), ("CIRCLED CROSSING LANES", 9938), ("CHAINS", 9939),
   ("NO ENTRY", 9940), ("ALTERNATE ONE-WAY LEFT WAY TRAFFIC", 9941),
   ("BLACK TWO-WAY LEFT WAY TRAFFIC", 9942), ("WHITE TWO-WAY LEFT WAY TRAFFIC", 9943),
   ("BLACK LEFT LANE MERGE", 9944), ("WHITE LEFT LANE MERGE", 9945), ("DRIVE SLOW SIGN", 9946),
   ("HEAVY WHITE DOWN-POINTING TRIANGLE", 9947), ("LEFT CLOSED ENTRY", 9948),
   ("SQUARED SALTIRE", 9949), ("FALLING DIAGONAL IN WHITE CIRCLE IN BLACK SQUARE", 9950),
   ("BLACK TRUCK", 9951), ("RESTRICTED LEFT ENTRY-1", 9952), ("RESTRICTED LEFT ENTRY-2", 9953),
   ("ASTRONOMICAL SYMBOL FOR URANUS", 9954), ("HEAVY CIRCLE WITH STROKE AND TWO DOTS ABOVE", 9955),
   ("PENTAGRAM", 9956), ("RIGHT-HANDED INTERLACED PENTAGRAM", 9957),
   ("LEFT-HANDED INTERLACED PENTAGRAM", 9958), ("INVERTED PENTAGRAM", 9959),
   ("BLACK CROSS ON SHIELD", 9960), ("SHINTO SHRINE", 9961), ("CHURCH", 9962), ("CASTLE", 9963),
   ("HISTORIC SITE", 9964), ("GEAR WITHOUT HUB", 9965), ("GEAR WITH HANDLES", 9966),
   ("MAP SYMBOL FOR LIGHTHOUSE", 9967), ("MOUNTAIN", 9968), ("UMBRELLA ON GROUND", 9969),
   ("FOUNTAIN", 9970), ("FLAG IN HOLE", 9971), ("FERRY", 9972), ("SAILBOAT", 9973),
   ("SQUARE FOUR CORNERS", 9974), ("SKIER", 9975), ("ICE SKATE", 9976), ("PERSON WITH BALL", 9977),
   ("TENT", 9978), ("JAPANESE BANK SYMBOL", 9979), ("HEADSTONE GRAVEYARD SYMBOL", 9980),
   ("FUEL PUMP", 9981), ("CUP ON BLACK SQUARE", 9982),
   ("WHITE FLAG WITH HORIZONTAL MIDDLE BLACK STRIPE", 9983)]

/-- The names of fullwidth forms. -/
def formNames : List (String × Nat) :=
  [("ZERO WIDTH NO-BREAK SPACE", 65279), ("FULLWIDTH EXCLAMATION MARK", 65281),
   ("FULLWIDTH QUOTATION MARK", 65282), ("FULLWIDTH NUMBER SIGN", 65283),
   ("FULLWIDTH DOLLAR SIGN", 65284), ("FULLWIDTH PERCENT SIGN", 65285),
   ("FULLWIDTH AMPERSAND", 65286), ("FULLWIDTH APOSTROPHE", 65287),
   ("FULLWIDTH LEFT PARENTHESIS", 65288), ("FULLWIDTH RIGHT PARENTHESIS", 65289),
   ("FULLWIDTH ASTERISK", 65290), ("FULLWIDTH PLUS SIGN", 65291), ("FULLWIDTH COMMA", 65292),
   ("FULLWIDTH HYPHEN-MINUS", 65293), ("FULLWIDTH FULL STOP", 65294), ("FULLWIDTH SOLIDUS", 65295),
   ("FULLWIDTH DIGIT ZERO", 65296), ("FULLWIDTH DIGIT ONE", 65297), ("FULLWIDTH DIGIT TWO", 65298),
   ("FULLWIDTH DIGIT THREE", 65299), ("FULLWIDTH DIGIT FOUR", 65300),
   ("FULLWIDTH DIGIT FIVE", 65301), ("FULLWIDTH DIGIT SIX", 65302),
   ("FULLWIDTH DIGIT SEVEN", 65303), ("FULLWIDTH DIGIT EIGHT", 65304),
   ("FULLWIDTH DIGIT NINE", 65305), ("FULLWIDTH COLON", 65306), ("FULLWIDTH SEMICOLON", 65307),
   ("FULLWIDTH LESS-THAN SIGN", 65308), ("FULLWIDTH EQUALS SIGN", 65309),
   ("FULLWIDTH GREATER-THAN SIGN", 65310), ("FULLWIDTH QUESTION MARK", 65311),
   ("FULLWIDTH COMMERCIAL AT", 65312), ("FULLWIDTH LATIN CAPITAL LETTER A", 65313),
   ("FULLWIDTH LATIN CAPITAL LETTER B", 65314), ("FULLWIDTH LATIN CAPITAL LETTER C", 65315),
   ("FULLWIDTH LATIN CAPITAL LETTER D", 65316), ("FULLWIDTH LATIN CAPITAL LETTER E", 65317),
   ("FULLWIDTH LATIN CAPITAL LETTER F", 65318), ("FULLWIDTH LATIN CAPITAL LETTER G", 65319),
   ("FULLWIDTH LATIN CAPITAL LETTER H", 65320), ("FULLWIDTH LATIN CAPITAL LETTER I", 65321),
   ("FULLWIDTH LATIN CAPITAL LETTER J", 65322), ("FULLWIDTH LATIN CAPITAL LETTER K", 65323),
   ("FULLWIDTH LATIN CAPITAL LETTER L", 65324), ("FULLWIDTH LATIN CAPITAL LETTER M", 65325),
   ("FULLWIDTH LATIN CAPITAL LETTER N", 65326), ("FULLWIDTH LATIN CAPITAL LETTER O", 65327),
   ("FULLWIDTH LATIN CAPITAL LETTER P", 65328), ("FULLWIDTH LATIN CAPITAL LETTER Q", 65329),
   ("FULLWIDTH LATIN CAPITAL LETTER R", 65330), ("FULLWIDTH LATIN CAPITAL LETTER S", 65331),
   ("FULLWIDTH LATIN CAPITAL LETTER T", 65332), ("FULLWIDTH LATIN CAPITAL LETTER U", 65333),
   ("FULLWIDTH LATIN CAPITAL LETTER V", 65334), ("FULLWIDTH LATIN CAPITAL LETTER W", 65335),
   ("FULLWIDTH LATIN CAPITAL LETTER X", 65336), ("FULLWIDTH LATIN CAPITAL LETTER Y", 65337),
   ("FULLWIDTH LATIN CAPITAL LETTER Z", 65338), ("FULLWIDTH LEFT SQUARE BRACKET", 65339),
   ("FULLWIDTH REVERSE SOLIDUS", 65340), ("FULLWIDTH RIGHT SQUARE BRACKET", 65341),
   ("FULLWIDTH CIRCUMFLEX ACCENT", 65342), ("FULLWIDTH LOW LINE", 65343),
   ("FULLWIDTH GRAVE ACCENT", 65344), ("FULLWIDTH LATIN SMALL LETTER A", 65345),
   ("FULLWIDTH LATIN SMALL LETTER B", 65346), ("FULLWIDTH LATIN SMALL LETTER C", 65347),
   ("FULLWIDTH LATIN SMALL LETTER D", 65348), ("FULLWIDTH LATIN SMALL LETTER E", 65349),
   ("FULLWIDTH LATIN SMALL LETTER F", 65350), ("FULLWIDTH LATIN SMALL LETTER G", 65351),
   ("FULLWIDTH LATIN SMALL LETTER H", 65352), ("FULLWIDTH LATIN SMALL LETTER I", 65353),
   ("FULLWIDTH LATIN SMALL LETTER J", 65354), ("FULLWIDTH LATIN SMALL LETTER K", 65355),
   ("FULLWIDTH LATIN SMALL LETTER L", 65356), ("FULLWIDTH LATIN SMALL LETTER M", 65357),
   ("FULLWIDTH LATIN SMALL LETTER N", 65358), ("FULLWIDTH LATIN SMALL LETTER O", 65359),
   ("FULLWIDTH LATIN SMALL LETTER P", 65360), ("FULLWIDTH LATIN SMALL LETTER Q", 65361),
   ("FULLWIDTH LATIN SMALL LETTER R", 65362), ("FULLWIDTH LATIN SMALL LETTER S", 65363),
   ("FULLWIDTH LATIN SMALL LETTER T", 65364), ("FULLWIDTH LATIN SMALL LETTER U", 65365),
   ("FULLWIDTH LATIN SMALL LETTER V", 65366), ("FULLWIDTH LATIN SMALL LETTER W", 65367),
   ("FULLWIDTH LATIN SMALL LETTER X", 65368), ("FULLWIDTH LATIN SMALL LETTER Y", 65369),
   ("FULLWIDTH LATIN SMALL LETTER Z", 65370), ("FULLWIDTH LEFT CURLY BRACKET", 65371),
   ("FULLWIDTH VERTICAL LINE", 65372), ("FULLWIDTH RIGHT CURLY BRACKET", 65373),
   ("FULLWIDTH TILDE", 65374)]

/-- The names of faces. -/
def faceNames : List (String × Nat) :=
  [("GRINNING FACE", 128512), ("GRINNING FACE WITH SMILING EYES", 128513),
   ("FACE WITH TEARS OF JOY", 128514), ("SMILING FACE WITH OPEN MOUTH", 128515),
   ("SMILING FACE WITH OPEN MOUTH AND SMILING EYES", 128516),
   ("SMILING FACE WITH OPEN MOUTH AND COLD SWEAT", 128517),
   ("SMILING FACE WITH OPEN MOUTH AND TIGHTLY-CLOSED EYES", 128518),
   ("SMILING FACE WITH HALO", 128519), ("SMILING FACE WITH HORNS", 128520),
   ("WINKING FACE", 128521), ("SMILING FACE WITH SMILING EYES", 128522),
   ("FACE SAVOURING DELICIOUS FOOD", 128523), ("RELIEVED FACE", 128524),
   ("SMILING FACE WITH HEART-SHAPED EYES", 128525), ("SMILING FACE WITH SUNGLASSES", 128526),
   ("SMIRKING FACE", 128527), ("NEUTRAL FACE", 128528), ("EXPRESSIONLESS FACE", 128529),
   ("UNAMUSED FACE", 128530), ("FACE WITH COLD SWEAT", 128531), ("PENSIVE FACE", 128532),
   ("CONFUSED FACE", 128533), ("CONFOUNDED FACE", 128534), ("KISSING FACE", 128535),
   ("FACE THROWING A KISS", 128536), ("KISSING FACE WITH SMILING EYES", 128537),
   ("KISSING FACE WITH CLOSED EYES", 128538), ("FACE WITH STUCK-OUT TONGUE", 128539),
   ("FACE WITH STUCK-OUT TONGUE AND WINKING EYE", 128540),
   ("FACE WITH STUCK-OUT TONGUE AND TIGHTLY-CLOSED EYES", 128541), ("DISAPPOINTED FACE", 128542),
   ("WORRIED FACE", 128543), ("ANGRY FACE", 128544), ("POUTING FACE", 128545),
   ("CRYING FACE", 128546), ("PERSEVERING FACE", 128547), ("FACE WITH LOOK OF TRIUMPH", 128548),
   ("DISAPPOINTED BUT RELIEVED FACE", 128549), ("FROWNING FACE WITH OPEN MOUTH", 128550),
   ("ANGUISHED FACE", 128551), ("FEARFUL FACE", 128552), ("WEARY FACE", 128553),
   ("SLEEPY FACE", 128554), ("TIRED FACE", 128555), ("GRIMACING FACE", 128556),
   ("LOUDLY CRYING FACE", 128557), ("FACE WITH OPEN MOUTH", 128558), ("HUSHED FACE", 128559),
   ("FACE WITH OPEN MOUTH AND COLD SWEAT", 128560), ("FACE SCREAMING IN FEAR", 128561),
   ("ASTONISHED FACE", 128562), ("FLUSHED FACE", 128563), ("SLEEPING FACE", 128564),
   ("DIZZY FACE", 128565), ("FACE WITHOUT MOUTH", 128566), ("FACE WITH MEDICAL MASK", 128567),
   ("GRINNING CAT FACE WITH SMILING EYES", 128568), ("CAT FACE WITH TEARS OF JOY", 128569),
   ("SMILING CAT FACE WITH OPEN MOUTH", 128570),
   ("SMILING CAT FACE WITH HEART-SHAPED EYES", 128571), ("CAT FACE WITH WRY SMILE", 128572),
   ("KISSING CAT FACE WITH CLOSED EYES", 128573), ("POUTING CAT FACE", 128574),
   ("CRYING CAT FACE", 128575), ("WEARY CAT FACE", 128576), ("SLIGHTLY FROWNING FACE", 128577),
   ("SLIGHTLY SMILING FACE", 128578), ("UPSIDE-DOWN FACE", 128579),
   ("FACE WITH ROLLING EYES", 128580), ("FACE WITH NO GOOD GESTURE", 128581),
   ("FACE WITH OK GESTURE", 128582), ("PERSON BOWING DEEPLY", 128583),
   ("SEE-NO-EVIL MONKEY", 128584), ("HEAR-NO-EVIL MONKEY", 128585),
   ("SPEAK-NO-EVIL MONKEY", 128586), ("HAPPY PERSON RAISING ONE HAND", 128587),
   ("PERSON RAISING BOTH HANDS IN CELEBRATION", 128588), ("PERSON FROWNING", 128589),
   ("PERSON WITH POUTING FACE", 128590), ("PERSON WITH FOLDED HANDS", 128591)]

/-- All names, block by block. -/
def characterNames : List (List (String × Nat)) :=
  [controlNames, basicNames, latinNames, greekNames, cyrillicNames, digitNames, punctuationNames,
   letterlikeNames, arrowNames, mathNames, enclosedNames, drawingNames, symbolNames, formNames,
   faceNames]

/-- The code point of a name, in any case of its letters. -/
def namedPoint? (name : Text) : Option Nat :=
  let upper := name.map Char.toUpper
  characterNames.findSome? fun block =>
    (block.find? fun entry => entry.1.toList = upper).map (·.2)

end ShaderMarkup
