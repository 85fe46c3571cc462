/-
  The characters of a domain name that are replaced by a
  text of their own.

  These are the compatibility characters that neither fall
  into a run of equal distance nor into a strip: each is
  listed with the text that it stands for.

  Key definitions include:
    * `Domain.replacements`
-/

------------------------------------------------------------
-- Tables
------------------------------------------------------------

namespace LostProperty

namespace Domain

/- Replacements of letters and signs of living scripts. -/
def scriptReplacements : List (Nat × String) :=
  [
    (0xA0, " "), (0xA8, " \u0308"), (0xAA, "a"),
    (0xAF, " \u0304"), (0xB2, "2"), (0xB3, "3"),
    (0xB4, " \u0301"), (0xB5, "\u03bc"), (0xB8, " \u0327"),
    (0xB9, "1"), (0xBA, "o"), (0xBC, "1\u20444"),
    (0xBD, "1\u20442"), (0xBE, "3\u20444"), (0x130, "i\u0307"),
    (0x132, "ij"), (0x133, "ij"), (0x134, "\u0135"),
    (0x136, "\u0137"), (0x13F, "l\xb7"), (0x140, "l\xb7"),
    (0x149, "\u02bcn"), (0x178, "\xff"), (0x17F, "s"),
    (0x181, "\u0253"), (0x182, "\u0183"), (0x184, "\u0185"),
    (0x186, "\u0254"), (0x187, "\u0188"), (0x189, "\u0256"),
    (0x18A, "\u0257"), (0x18B, "\u018c"), (0x18E, "\u01dd"),
    (0x18F, "\u0259"), (0x190, "\u025b"), (0x191, "\u0192"),
    (0x193, "\u0260"), (0x194, "\u0263"), (0x196, "\u0269"),
    (0x197, "\u0268"), (0x198, "\u0199"), (0x19C, "\u026f"),
    (0x19D, "\u0272"), (0x19F, "\u0275"), (0x1A6, "\u0280"),
    (0x1A7, "\u01a8"), (0x1A9, "\u0283"), (0x1AC, "\u01ad"),
    (0x1AE, "\u0288"), (0x1AF, "\u01b0"), (0x1B1, "\u028a"),
    (0x1B2, "\u028b"), (0x1B3, "\u01b4"), (0x1B5, "\u01b6"),
    (0x1B7, "\u0292"), (0x1B8, "\u01b9"), (0x1BC, "\u01bd"),
    (0x1C4, "d\u017e"), (0x1C5, "d\u017e"), (0x1C6, "d\u017e"),
    (0x1C7, "lj"), (0x1C8, "lj"), (0x1C9, "lj"), (0x1CA, "nj"),
    (0x1CB, "nj"), (0x1CC, "nj"), (0x1F1, "dz"), (0x1F2, "dz"),
    (0x1F3, "dz"), (0x1F4, "\u01f5"), (0x1F6, "\u0195"),
    (0x1F7, "\u01bf"), (0x220, "\u019e"), (0x23A, "\u2c65"),
    (0x23B, "\u023c"), (0x23D, "\u019a"), (0x23E, "\u2c66"),
    (0x241, "\u0242"), (0x243, "\u0180"), (0x244, "\u0289"),
    (0x245, "\u028c"), (0x2B0, "h"), (0x2B1, "\u0266"),
    (0x2B2, "j"), (0x2B3, "r"), (0x2B4, "\u0279"),
    (0x2B5, "\u027b"), (0x2B6, "\u0281"), (0x2B7, "w"),
    (0x2B8, "y"), (0x2D8, " \u0306"), (0x2D9, " \u0307"),
    (0x2DA, " \u030a"), (0x2DB, " \u0328"), (0x2DC, " \u0303"),
    (0x2DD, " \u030b"), (0x2E0, "\u0263"), (0x2E1, "l"),
    (0x2E2, "s"), (0x2E3, "x"), (0x2E4, "\u0295"),
    (0x340, "\u0300"), (0x341, "\u0301"), (0x343, "\u0313"),
    (0x344, "\u0308\u0301"), (0x345, "\u03b9"),
    (0x370, "\u0371"), (0x372, "\u0373"), (0x374, "\u02b9"),
    (0x376, "\u0377"), (0x37A, " \u03b9"), (0x37E, ";"),
    (0x37F, "\u03f3"), (0x384, " \u0301"),
    (0x385, " \u0308\u0301"), (0x386, "\u03ac"), (0x387, "\xb7"),
    (0x38C, "\u03cc"), (0x38E, "\u03cd"), (0x38F, "\u03ce"),
    (0x3CF, "\u03d7"), (0x3D0, "\u03b2"), (0x3D1, "\u03b8"),
    (0x3D2, "\u03c5"), (0x3D3, "\u03cd"), (0x3D4, "\u03cb"),
    (0x3D5, "\u03c6"), (0x3D6, "\u03c0"), (0x3F0, "\u03ba"),
    (0x3F1, "\u03c1"), (0x3F2, "\u03c3"), (0x3F4, "\u03b8"),
    (0x3F5, "\u03b5"), (0x3F7, "\u03f8"), (0x3F9, "\u03c3"),
    (0x3FA, "\u03fb"), (0x4C0, "\u04cf"),
    (0x587, "\u0565\u0582"), (0x675, "\u0627\u0674"),
    (0x676, "\u0648\u0674"), (0x677, "\u06c7\u0674"),
    (0x678, "\u064a\u0674"), (0x958, "\u0915\u093c"),
    (0x959, "\u0916\u093c"), (0x95A, "\u0917\u093c"),
    (0x95B, "\u091c\u093c"), (0x95C, "\u0921\u093c"),
    (0x95D, "\u0922\u093c"), (0x95E, "\u092b\u093c"),
    (0x95F, "\u092f\u093c"), (0x9DC, "\u09a1\u09bc"),
    (0x9DD, "\u09a2\u09bc"), (0x9DF, "\u09af\u09bc"),
    (0xA33, "\u0a32\u0a3c"), (0xA36, "\u0a38\u0a3c"),
    (0xA59, "\u0a16\u0a3c"), (0xA5A, "\u0a17\u0a3c"),
    (0xA5B, "\u0a1c\u0a3c"), (0xA5E, "\u0a2b\u0a3c"),
    (0xB5C, "\u0b21\u0b3c"), (0xB5D, "\u0b22\u0b3c"),
    (0xE33, "\u0e4d\u0e32"), (0xEB3, "\u0ecd\u0eb2"),
    (0xEDC, "\u0eab\u0e99"), (0xEDD, "\u0eab\u0ea1"),
    (0xF0C, "\u0f0b"), (0xF43, "\u0f42\u0fb7"),
    (0xF4D, "\u0f4c\u0fb7"), (0xF52, "\u0f51\u0fb7"),
    (0xF57, "\u0f56\u0fb7"), (0xF5C, "\u0f5b\u0fb7"),
    (0xF69, "\u0f40\u0fb5"), (0xF73, "\u0f71\u0f72"),
    (0xF75, "\u0f71\u0f74"), (0xF76, "\u0fb2\u0f80"),
    (0xF77, "\u0fb2\u0f71\u0f80"), (0xF78, "\u0fb3\u0f80"),
    (0xF79, "\u0fb3\u0f71\u0f80"), (0xF81, "\u0f71\u0f80"),
    (0xF93, "\u0f92\u0fb7"), (0xF9D, "\u0f9c\u0fb7"),
    (0xFA2, "\u0fa1\u0fb7"), (0xFA7, "\u0fa6\u0fb7"),
    (0xFAC, "\u0fab\u0fb7"), (0xFB9, "\u0f90\u0fb5"),
    (0x10C7, "\u2d27"), (0x10CD, "\u2d2d"), (0x10FC, "\u10dc"),
    (0x1C80, "\u0432"), (0x1C81, "\u0434"), (0x1C82, "\u043e"),
    (0x1C83, "\u0441"), (0x1C84, "\u0442"), (0x1C85, "\u0442"),
    (0x1C86, "\u044a"), (0x1C87, "\u0463"), (0x1C88, "\ua64b"),
    (0x1C89, "\u1c8a"), (0x1D2C, "a"), (0x1D2D, "\xe6"),
    (0x1D2E, "b"), (0x1D30, "d"), (0x1D32, "\u01dd"),
    (0x1D3C, "o"), (0x1D3D, "\u0223"), (0x1D44, "\u0250"),
    (0x1D45, "\u0251"), (0x1D46, "\u1d02"), (0x1D47, "b"),
    (0x1D48, "d"), (0x1D49, "e"), (0x1D4A, "\u0259"),
    (0x1D4B, "\u025b"), (0x1D4C, "\u025c"), (0x1D4D, "g"),
    (0x1D4F, "k"), (0x1D50, "m"), (0x1D51, "\u014b"),
    (0x1D52, "o"), (0x1D53, "\u0254"), (0x1D54, "\u1d16"),
    (0x1D55, "\u1d17"), (0x1D56, "p"), (0x1D57, "t"),
    (0x1D58, "u"), (0x1D59, "\u1d1d"), (0x1D5A, "\u026f"),
    (0x1D5B, "v"), (0x1D5C, "\u1d25"), (0x1D60, "\u03c6"),
    (0x1D61, "\u03c7"), (0x1D66, "\u03b2"), (0x1D67, "\u03b3"),
    (0x1D68, "\u03c1"), (0x1D69, "\u03c6"), (0x1D6A, "\u03c7"),
    (0x1D78, "\u043d"), (0x1D9B, "\u0252"), (0x1D9C, "c"),
    (0x1D9D, "\u0255"), (0x1D9E, "\xf0"), (0x1D9F, "\u025c"),
    (0x1DA0, "f"), (0x1DA1, "\u025f"), (0x1DA2, "\u0261"),
    (0x1DA3, "\u0265"), (0x1DA7, "\u1d7b"), (0x1DA8, "\u029d"),
    (0x1DA9, "\u026d"), (0x1DAA, "\u1d85"), (0x1DAB, "\u029f"),
    (0x1DAC, "\u0271"), (0x1DAD, "\u0270"), (0x1DB2, "\u0278"),
    (0x1DB3, "\u0282"), (0x1DB4, "\u0283"), (0x1DB5, "\u01ab"),
    (0x1DB6, "\u0289"), (0x1DB7, "\u028a"), (0x1DB8, "\u1d1c"),
    (0x1DB9, "\u028b"), (0x1DBA, "\u028c"), (0x1DBB, "z"),
    (0x1DBF, "\u03b8"), (0x1E9A, "a\u02be"), (0x1E9B, "\u1e61"),
    (0x1E9E, "\xdf"), (0x1F71, "\u03ac"), (0x1F73, "\u03ad"),
    (0x1F75, "\u03ae"), (0x1F77, "\u03af"), (0x1F79, "\u03cc"),
    (0x1F7B, "\u03cd"), (0x1F7D, "\u03ce"),
    (0x1F80, "\u1f00\u03b9"), (0x1F81, "\u1f01\u03b9"),
    (0x1F82, "\u1f02\u03b9"), (0x1F83, "\u1f03\u03b9"),
    (0x1F84, "\u1f04\u03b9"), (0x1F85, "\u1f05\u03b9"),
    (0x1F86, "\u1f06\u03b9"), (0x1F87, "\u1f07\u03b9"),
    (0x1F88, "\u1f00\u03b9"), (0x1F89, "\u1f01\u03b9"),
    (0x1F8A, "\u1f02\u03b9"), (0x1F8B, "\u1f03\u03b9"),
    (0x1F8C, "\u1f04\u03b9"), (0x1F8D, "\u1f05\u03b9"),
    (0x1F8E, "\u1f06\u03b9"), (0x1F8F, "\u1f07\u03b9"),
    (0x1F90, "\u1f20\u03b9"), (0x1F91, "\u1f21\u03b9"),
    (0x1F92, "\u1f22\u03b9"), (0x1F93, "\u1f23\u03b9"),
    (0x1F94, "\u1f24\u03b9"), (0x1F95, "\u1f25\u03b9"),
    (0x1F96, "\u1f26\u03b9"), (0x1F97, "\u1f27\u03b9"),
    (0x1F98, "\u1f20\u03b9"), (0x1F99, "\u1f21\u03b9"),
    (0x1F9A, "\u1f22\u03b9"), (0x1F9B, "\u1f23\u03b9"),
    (0x1F9C, "\u1f24\u03b9"), (0x1F9D, "\u1f25\u03b9"),
    (0x1F9E, "\u1f26\u03b9"), (0x1F9F, "\u1f27\u03b9"),
    (0x1FA0, "\u1f60\u03b9"), (0x1FA1, "\u1f61\u03b9"),
    (0x1FA2, "\u1f62\u03b9"), (0x1FA3, "\u1f63\u03b9"),
    (0x1FA4, "\u1f64\u03b9"), (0x1FA5, "\u1f65\u03b9"),
    (0x1FA6, "\u1f66\u03b9"), (0x1FA7, "\u1f67\u03b9"),
    (0x1FA8, "\u1f60\u03b9"), (0x1FA9, "\u1f61\u03b9"),
    (0x1FAA, "\u1f62\u03b9"), (0x1FAB, "\u1f63\u03b9"),
    (0x1FAC, "\u1f64\u03b9"), (0x1FAD, "\u1f65\u03b9"),
    (0x1FAE, "\u1f66\u03b9"), (0x1FAF, "\u1f67\u03b9"),
    (0x1FB2, "\u1f70\u03b9"), (0x1FB3, "\u03b1\u03b9"),
    (0x1FB4, "\u03ac\u03b9"), (0x1FB7, "\u1fb6\u03b9"),
    (0x1FB8, "\u1fb0"), (0x1FB9, "\u1fb1"), (0x1FBA, "\u1f70"),
    (0x1FBB, "\u03ac"), (0x1FBC, "\u03b1\u03b9"),
    (0x1FBD, " \u0313"), (0x1FBE, "\u03b9"), (0x1FBF, " \u0313"),
    (0x1FC0, " \u0342"), (0x1FC1, " \u0308\u0342"),
    (0x1FC2, "\u1f74\u03b9"), (0x1FC3, "\u03b7\u03b9"),
    (0x1FC4, "\u03ae\u03b9"), (0x1FC7, "\u1fc6\u03b9"),
    (0x1FC8, "\u1f72"), (0x1FC9, "\u03ad"), (0x1FCA, "\u1f74"),
    (0x1FCB, "\u03ae"), (0x1FCC, "\u03b7\u03b9"),
    (0x1FCD, " \u0313\u0300"), (0x1FCE, " \u0313\u0301"),
    (0x1FCF, " \u0313\u0342"), (0x1FD3, "\u0390"),
    (0x1FD8, "\u1fd0"), (0x1FD9, "\u1fd1"), (0x1FDA, "\u1f76"),
    (0x1FDB, "\u03af"), (0x1FDD, " \u0314\u0300"),
    (0x1FDE, " \u0314\u0301"), (0x1FDF, " \u0314\u0342"),
    (0x1FE3, "\u03b0"), (0x1FE8, "\u1fe0"), (0x1FE9, "\u1fe1"),
    (0x1FEA, "\u1f7a"), (0x1FEB, "\u03cd"), (0x1FEC, "\u1fe5"),
    (0x1FED, " \u0308\u0300"), (0x1FEE, " \u0308\u0301"),
    (0x1FEF, "`"), (0x1FF2, "\u1f7c\u03b9"),
    (0x1FF3, "\u03c9\u03b9"), (0x1FF4, "\u03ce\u03b9"),
    (0x1FF7, "\u1ff6\u03b9"), (0x1FF8, "\u1f78"),
    (0x1FF9, "\u03cc"), (0x1FFA, "\u1f7c"), (0x1FFB, "\u03ce"),
    (0x1FFC, "\u03c9\u03b9"), (0x1FFD, " \u0301"),
    (0x1FFE, " \u0314")
  ]

/- Replacements of symbols, punctuation and radicals. -/
def symbolReplacements : List (Nat × String) :=
  [
    (0x2000, " "), (0x2001, " "), (0x2002, " "), (0x2003, " "),
    (0x2004, " "), (0x2005, " "), (0x2006, " "), (0x2007, " "),
    (0x2008, " "), (0x2009, " "), (0x200A, " "),
    (0x2011, "\u2010"), (0x2017, " \u0333"), (0x202F, " "),
    (0x2033, "\u2032\u2032"), (0x2034, "\u2032\u2032\u2032"),
    (0x2036, "\u2035\u2035"), (0x2037, "\u2035\u2035\u2035"),
    (0x203C, "!!"), (0x203E, " \u0305"), (0x2047, "??"),
    (0x2048, "?!"), (0x2049, "!?"),
    (0x2057, "\u2032\u2032\u2032\u2032"), (0x205F, " "),
    (0x2070, "0"), (0x2071, "i"), (0x207A, "+"),
    (0x207B, "\u2212"), (0x208A, "+"), (0x208B, "\u2212"),
    (0x208C, "="), (0x208D, "("), (0x208E, ")"),
    (0x2094, "\u0259"), (0x2095, "h"), (0x209A, "p"),
    (0x209B, "s"), (0x209C, "t"), (0x20A8, "rs"),
    (0x2100, "a/c"), (0x2101, "a/s"), (0x2102, "c"),
    (0x2103, "\xb0c"), (0x2105, "c/o"), (0x2106, "c/u"),
    (0x2107, "\u025b"), (0x2109, "\xb0f"), (0x210F, "\u0127"),
    (0x2115, "n"), (0x2116, "no"), (0x211C, "r"), (0x211D, "r"),
    (0x2120, "sm"), (0x2121, "tel"), (0x2122, "tm"),
    (0x2124, "z"), (0x2126, "\u03c9"), (0x2128, "z"),
    (0x212A, "k"), (0x212B, "\xe5"), (0x212C, "b"),
    (0x212D, "c"), (0x212F, "e"), (0x2130, "e"), (0x2131, "f"),
    (0x2132, "\u214e"), (0x2133, "m"), (0x2134, "o"),
    (0x2139, "i"), (0x213B, "fax"), (0x213C, "\u03c0"),
    (0x213D, "\u03b3"), (0x213E, "\u03b3"), (0x213F, "\u03c0"),
    (0x2140, "\u2211"), (0x2150, "1\u20447"),
    (0x2151, "1\u20449"), (0x2152, "1\u204410"),
    (0x2153, "1\u20443"), (0x2154, "2\u20443"),
    (0x2155, "1\u20445"), (0x2156, "2\u20445"),
    (0x2157, "3\u20445"), (0x2158, "4\u20445"),
    (0x2159, "1\u20446"), (0x215A, "5\u20446"),
    (0x215B, "1\u20448"), (0x215C, "3\u20448"),
    (0x215D, "5\u20448"), (0x215E, "7\u20448"),
    (0x215F, "1\u2044"), (0x2160, "i"), (0x2161, "ii"),
    (0x2162, "iii"), (0x2163, "iv"), (0x2164, "v"),
    (0x2165, "vi"), (0x2166, "vii"), (0x2167, "viii"),
    (0x2168, "ix"), (0x2169, "x"), (0x216A, "xi"),
    (0x216B, "xii"), (0x2171, "ii"), (0x2172, "iii"),
    (0x2173, "iv"), (0x2174, "v"), (0x2175, "vi"),
    (0x2176, "vii"), (0x2177, "viii"), (0x2178, "ix"),
    (0x2179, "x"), (0x217A, "xi"), (0x217B, "xii"),
    (0x2183, "\u2184"), (0x2189, "0\u20443"),
    (0x222C, "\u222b\u222b"), (0x222D, "\u222b\u222b\u222b"),
    (0x222F, "\u222e\u222e"), (0x2230, "\u222e\u222e\u222e"),
    (0x2329, "\u3008"), (0x232A, "\u3009"), (0x2469, "10"),
    (0x246A, "11"), (0x246B, "12"), (0x246C, "13"),
    (0x246D, "14"), (0x246E, "15"), (0x246F, "16"),
    (0x2470, "17"), (0x2471, "18"), (0x2472, "19"),
    (0x2473, "20"), (0x2474, "(1)"), (0x2475, "(2)"),
    (0x2476, "(3)"), (0x2477, "(4)"), (0x2478, "(5)"),
    (0x2479, "(6)"), (0x247A, "(7)"), (0x247B, "(8)"),
    (0x247C, "(9)"), (0x247D, "(10)"), (0x247E, "(11)"),
    (0x247F, "(12)"), (0x2480, "(13)"), (0x2481, "(14)"),
    (0x2482, "(15)"), (0x2483, "(16)"), (0x2484, "(17)"),
    (0x2485, "(18)"), (0x2486, "(19)"), (0x2487, "(20)"),
    (0x249C, "(a)"), (0x249D, "(b)"), (0x249E, "(c)"),
    (0x249F, "(d)"), (0x24A0, "(e)"), (0x24A1, "(f)"),
    (0x24A2, "(g)"), (0x24A3, "(h)"), (0x24A4, "(i)"),
    (0x24A5, "(j)"), (0x24A6, "(k)"), (0x24A7, "(l)"),
    (0x24A8, "(m)"), (0x24A9, "(n)"), (0x24AA, "(o)"),
    (0x24AB, "(p)"), (0x24AC, "(q)"), (0x24AD, "(r)"),
    (0x24AE, "(s)"), (0x24AF, "(t)"), (0x24B0, "(u)"),
    (0x24B1, "(v)"), (0x24B2, "(w)"), (0x24B3, "(x)"),
    (0x24B4, "(y)"), (0x24B5, "(z)"), (0x24EA, "0"),
    (0x2A0C, "\u222b\u222b\u222b\u222b"), (0x2A74, "::="),
    (0x2A75, "=="), (0x2A76, "==="), (0x2ADC, "\u2add\u0338"),
    (0x2C60, "\u2c61"), (0x2C62, "\u026b"), (0x2C63, "\u1d7d"),
    (0x2C64, "\u027d"), (0x2C6D, "\u0251"), (0x2C6E, "\u0271"),
    (0x2C6F, "\u0250"), (0x2C70, "\u0252"), (0x2C72, "\u2c73"),
    (0x2C75, "\u2c76"), (0x2C7C, "j"), (0x2C7D, "v"),
    (0x2C7E, "\u023f"), (0x2C7F, "\u0240"), (0x2CEB, "\u2cec"),
    (0x2CED, "\u2cee"), (0x2CF2, "\u2cf3"), (0x2D6F, "\u2d61"),
    (0x2E9F, "母"), (0x2EF3, "龟"), (0x3000, " "), (0x3002, "."),
    (0x3036, "\u3012"), (0x3038, "十"), (0x3039, "卄"),
    (0x303A, "卅"), (0x309B, " \u3099"), (0x309C, " \u309a"),
    (0x309F, "より"), (0x30FF, "コト"), (0x3131, "\u1100"),
    (0x3132, "\u1101"), (0x3133, "\u11aa"), (0x3134, "\u1102"),
    (0x3135, "\u11ac"), (0x3136, "\u11ad"), (0x3140, "\u111a"),
    (0x3144, "\u1121"), (0x3165, "\u1114"), (0x3166, "\u1115"),
    (0x3167, "\u11c7"), (0x3168, "\u11c8"), (0x3169, "\u11cc"),
    (0x316A, "\u11ce"), (0x316B, "\u11d3"), (0x316C, "\u11d7"),
    (0x316D, "\u11d9"), (0x316E, "\u111c"), (0x316F, "\u11dd"),
    (0x3170, "\u11df"), (0x3171, "\u111d"), (0x3172, "\u111e"),
    (0x3173, "\u1120"), (0x3174, "\u1122"), (0x3175, "\u1123"),
    (0x3176, "\u1127"), (0x3177, "\u1129"), (0x317D, "\u1132"),
    (0x317E, "\u1136"), (0x317F, "\u1140"), (0x3180, "\u1147"),
    (0x3181, "\u114c"), (0x3182, "\u11f1"), (0x3183, "\u11f2"),
    (0x3187, "\u1184"), (0x3188, "\u1185"), (0x3189, "\u1188"),
    (0x318A, "\u1191"), (0x318B, "\u1192"), (0x318C, "\u1194"),
    (0x318D, "\u119e"), (0x318E, "\u11a1")
  ]

/- Replacements of enclosed and squared words. -/
def squareReplacements : List (Nat × String) :=
  [
    (0x3200, "(\u1100)"), (0x3201, "(\u1102)"),
    (0x3202, "(\u1103)"), (0x3203, "(\u1105)"),
    (0x3204, "(\u1106)"), (0x3205, "(\u1107)"),
    (0x3206, "(\u1109)"), (0x3207, "(\u110b)"),
    (0x3208, "(\u110c)"), (0x3209, "(\u110e)"),
    (0x320A, "(\u110f)"), (0x320B, "(\u1110)"),
    (0x320C, "(\u1111)"), (0x320D, "(\u1112)"),
    (0x320E, "(\uac00)"), (0x320F, "(\ub098)"),
    (0x3210, "(\ub2e4)"), (0x3211, "(\ub77c)"),
    (0x3212, "(\ub9c8)"), (0x3213, "(\ubc14)"),
    (0x3214, "(\uc0ac)"), (0x3215, "(\uc544)"),
    (0x3216, "(\uc790)"), (0x3217, "(\ucc28)"),
    (0x3218, "(\uce74)"), (0x3219, "(\ud0c0)"),
    (0x321A, "(\ud30c)"), (0x321B, "(\ud558)"),
    (0x321C, "(\uc8fc)"), (0x321D, "(\uc624\uc804)"),
    (0x321E, "(\uc624\ud6c4)"), (0x3220, "(一)"), (0x3221, "(二)"),
    (0x3222, "(三)"), (0x3223, "(四)"), (0x3224, "(五)"),
    (0x3225, "(六)"), (0x3226, "(七)"), (0x3227, "(八)"),
    (0x3228, "(九)"), (0x3229, "(十)"), (0x322A, "(月)"),
    (0x322B, "(火)"), (0x322C, "(水)"), (0x322D, "(木)"),
    (0x322E, "(金)"), (0x322F, "(土)"), (0x3230, "(日)"),
    (0x3231, "(株)"), (0x3232, "(有)"), (0x3233, "(社)"),
    (0x3234, "(名)"), (0x3235, "(特)"), (0x3236, "(財)"),
    (0x3237, "(祝)"), (0x3238, "(労)"), (0x3239, "(代)"),
    (0x323A, "(呼)"), (0x323B, "(学)"), (0x323C, "(監)"),
    (0x323D, "(企)"), (0x323E, "(資)"), (0x323F, "(協)"),
    (0x3240, "(祭)"), (0x3241, "(休)"), (0x3242, "(自)"),
    (0x3243, "(至)"), (0x3250, "pte"), (0x3251, "21"),
    (0x3252, "22"), (0x3253, "23"), (0x3254, "24"),
    (0x3255, "25"), (0x3256, "26"), (0x3257, "27"),
    (0x3258, "28"), (0x3259, "29"), (0x325A, "30"),
    (0x325B, "31"), (0x325C, "32"), (0x325D, "33"),
    (0x325E, "34"), (0x325F, "35"), (0x3260, "\u1100"),
    (0x3261, "\u1102"), (0x3262, "\u1103"), (0x3266, "\u1109"),
    (0x3267, "\u110b"), (0x3268, "\u110c"),
    (0x327C, "\ucc38\uace0"), (0x327D, "\uc8fc\uc758"),
    (0x327E, "\uc6b0"), (0x32B1, "36"), (0x32B2, "37"),
    (0x32B3, "38"), (0x32B4, "39"), (0x32B5, "40"),
    (0x32B6, "41"), (0x32B7, "42"), (0x32B8, "43"),
    (0x32B9, "44"), (0x32BA, "45"), (0x32BB, "46"),
    (0x32BC, "47"), (0x32BD, "48"), (0x32BE, "49"),
    (0x32BF, "50"), (0x32C0, "1月"), (0x32C1, "2月"),
    (0x32C2, "3月"), (0x32C3, "4月"), (0x32C4, "5月"),
    (0x32C5, "6月"), (0x32C6, "7月"), (0x32C7, "8月"),
    (0x32C8, "9月"), (0x32C9, "10月"), (0x32CA, "11月"),
    (0x32CB, "12月"), (0x32CC, "hg"), (0x32CD, "erg"),
    (0x32CE, "ev"), (0x32CF, "ltd"), (0x32F3, "ヤ"),
    (0x32F4, "ユ"), (0x32FF, "令和"), (0x3300, "アパート"),
    (0x3301, "アルファ"), (0x3302, "アンペア"), (0x3303, "アール"),
    (0x3304, "イニング"), (0x3305, "インチ"), (0x3306, "ウォン"),
    (0x3307, "エスクード"), (0x3308, "エーカー"), (0x3309, "オンス"),
    (0x330A, "オーム"), (0x330B, "カイリ"), (0x330C, "カラット"),
    (0x330D, "カロリー"), (0x330E, "ガロン"), (0x330F, "ガンマ"),
    (0x3310, "ギガ"), (0x3311, "ギニー"), (0x3312, "キュリー"),
    (0x3313, "ギルダー"), (0x3314, "キロ"), (0x3315, "キログラム"),
    (0x3316, "キロメートル"), (0x3317, "キロワット"), (0x3318, "グラム"),
    (0x3319, "グラムトン"), (0x331A, "クルゼイロ"), (0x331B, "クローネ"),
    (0x331C, "ケース"), (0x331D, "コルナ"), (0x331E, "コーポ"),
    (0x331F, "サイクル"), (0x3320, "サンチーム"), (0x3321, "シリング"),
    (0x3322, "センチ"), (0x3323, "セント"), (0x3324, "ダース"),
    (0x3325, "デシ"), (0x3326, "ドル"), (0x3327, "トン"),
    (0x3328, "ナノ"), (0x3329, "ノット"), (0x332A, "ハイツ"),
    (0x332B, "パーセント"), (0x332C, "パーツ"), (0x332D, "バーレル"),
    (0x332E, "ピアストル"), (0x332F, "ピクル"), (0x3330, "ピコ"),
    (0x3331, "ビル"), (0x3332, "ファラッド"), (0x3333, "フィート"),
    (0x3334, "ブッシェル"), (0x3335, "フラン"), (0x3336, "ヘクタール"),
    (0x3337, "ペソ"), (0x3338, "ペニヒ"), (0x3339, "ヘルツ"),
    (0x333A, "ペンス"), (0x333B, "ページ"), (0x333C, "ベータ"),
    (0x333D, "ポイント"), (0x333E, "ボルト"), (0x333F, "ホン"),
    (0x3340, "ポンド"), (0x3341, "ホール"), (0x3342, "ホーン"),
    (0x3343, "マイクロ"), (0x3344, "マイル"), (0x3345, "マッハ"),
    (0x3346, "マルク"), (0x3347, "マンション"), (0x3348, "ミクロン"),
    (0x3349, "ミリ"), (0x334A, "ミリバール"), (0x334B, "メガ"),
    (0x334C, "メガトン"), (0x334D, "メートル"), (0x334E, "ヤード"),
    (0x334F, "ヤール"), (0x3350, "ユアン"), (0x3351, "リットル"),
    (0x3352, "リラ"), (0x3353, "ルピー"), (0x3354, "ルーブル"),
    (0x3355, "レム"), (0x3356, "レントゲン"), (0x3357, "ワット"),
    (0x3358, "0点"), (0x3359, "1点"), (0x335A, "2点"),
    (0x335B, "3点"), (0x335C, "4点"), (0x335D, "5点"),
    (0x335E, "6点"), (0x335F, "7点"), (0x3360, "8点"),
    (0x3361, "9点"), (0x3362, "10点"), (0x3363, "11点"),
    (0x3364, "12点"), (0x3365, "13点"), (0x3366, "14点"),
    (0x3367, "15点"), (0x3368, "16点"), (0x3369, "17点"),
    (0x336A, "18点"), (0x336B, "19点"), (0x336C, "20点"),
    (0x336D, "21点"), (0x336E, "22点"), (0x336F, "23点"),
    (0x3370, "24点"), (0x3371, "hpa"), (0x3372, "da"),
    (0x3373, "au"), (0x3374, "bar"), (0x3375, "ov"),
    (0x3376, "pc"), (0x3377, "dm"), (0x3378, "dm2"),
    (0x3379, "dm3"), (0x337A, "iu"), (0x337B, "平成"),
    (0x337C, "昭和"), (0x337D, "大正"), (0x337E, "明治"),
    (0x337F, "株式会社"), (0x3380, "pa"), (0x3381, "na"),
    (0x3382, "\u03bca"), (0x3383, "ma"), (0x3384, "ka"),
    (0x3385, "kb"), (0x3386, "mb"), (0x3387, "gb"),
    (0x3388, "cal"), (0x3389, "kcal"), (0x338A, "pf"),
    (0x338B, "nf"), (0x338C, "\u03bcf"), (0x338D, "\u03bcg"),
    (0x338E, "mg"), (0x338F, "kg"), (0x3390, "hz"),
    (0x3391, "khz"), (0x3392, "mhz"), (0x3393, "ghz"),
    (0x3394, "thz"), (0x3395, "\u03bcl"), (0x3396, "ml"),
    (0x3397, "dl"), (0x3398, "kl"), (0x3399, "fm"),
    (0x339A, "nm"), (0x339B, "\u03bcm"), (0x339C, "mm"),
    (0x339D, "cm"), (0x339E, "km"), (0x339F, "mm2"),
    (0x33A0, "cm2"), (0x33A1, "m2"), (0x33A2, "km2"),
    (0x33A3, "mm3"), (0x33A4, "cm3"), (0x33A5, "m3"),
    (0x33A6, "km3"), (0x33A7, "m\u2215s"), (0x33A8, "m\u2215s2"),
    (0x33A9, "pa"), (0x33AA, "kpa"), (0x33AB, "mpa"),
    (0x33AC, "gpa"), (0x33AD, "rad"), (0x33AE, "rad\u2215s"),
    (0x33AF, "rad\u2215s2"), (0x33B0, "ps"), (0x33B1, "ns"),
    (0x33B2, "\u03bcs"), (0x33B3, "ms"), (0x33B4, "pv"),
    (0x33B5, "nv"), (0x33B6, "\u03bcv"), (0x33B7, "mv"),
    (0x33B8, "kv"), (0x33B9, "mv"), (0x33BA, "pw"),
    (0x33BB, "nw"), (0x33BC, "\u03bcw"), (0x33BD, "mw"),
    (0x33BE, "kw"), (0x33BF, "mw"), (0x33C0, "k\u03c9"),
    (0x33C1, "m\u03c9"), (0x33C3, "bq"), (0x33C4, "cc"),
    (0x33C5, "cd"), (0x33C6, "c\u2215kg"), (0x33C8, "db"),
    (0x33C9, "gy"), (0x33CA, "ha"), (0x33CB, "hp"),
    (0x33CC, "in"), (0x33CD, "kk"), (0x33CE, "km"),
    (0x33CF, "kt"), (0x33D0, "lm"), (0x33D1, "ln"),
    (0x33D2, "log"), (0x33D3, "lx"), (0x33D4, "mb"),
    (0x33D5, "mil"), (0x33D6, "mol"), (0x33D7, "ph"),
    (0x33D9, "ppm"), (0x33DA, "pr"), (0x33DB, "sr"),
    (0x33DC, "sv"), (0x33DD, "wb"), (0x33DE, "v\u2215m"),
    (0x33DF, "a\u2215m"), (0x33E0, "1日"), (0x33E1, "2日"),
    (0x33E2, "3日"), (0x33E3, "4日"), (0x33E4, "5日"),
    (0x33E5, "6日"), (0x33E6, "7日"), (0x33E7, "8日"),
    (0x33E8, "9日"), (0x33E9, "10日"), (0x33EA, "11日"),
    (0x33EB, "12日"), (0x33EC, "13日"), (0x33ED, "14日"),
    (0x33EE, "15日"), (0x33EF, "16日"), (0x33F0, "17日"),
    (0x33F1, "18日"), (0x33F2, "19日"), (0x33F3, "20日"),
    (0x33F4, "21日"), (0x33F5, "22日"), (0x33F6, "23日"),
    (0x33F7, "24日"), (0x33F8, "25日"), (0x33F9, "26日"),
    (0x33FA, "27日"), (0x33FB, "28日"), (0x33FC, "29日"),
    (0x33FD, "30日"), (0x33FE, "31日"), (0x33FF, "gal")
  ]

/- Replacements of late letters and of short ligatures. -/
def letterReplacements : List (Nat × String) :=
  [
    (0xA69C, "\u044a"), (0xA69D, "\u044c"), (0xA770, "\ua76f"),
    (0xA779, "\ua77a"), (0xA77B, "\ua77c"), (0xA77D, "\u1d79"),
    (0xA78B, "\ua78c"), (0xA78D, "\u0265"), (0xA790, "\ua791"),
    (0xA792, "\ua793"), (0xA7AA, "\u0266"), (0xA7AB, "\u025c"),
    (0xA7AC, "\u0261"), (0xA7AD, "\u026c"), (0xA7AE, "\u026a"),
    (0xA7B0, "\u029e"), (0xA7B1, "\u0287"), (0xA7B2, "\u029d"),
    (0xA7B3, "\uab53"), (0xA7C4, "\ua794"), (0xA7C5, "\u0282"),
    (0xA7C6, "\u1d8e"), (0xA7C7, "\ua7c8"), (0xA7C9, "\ua7ca"),
    (0xA7CB, "\u0264"), (0xA7DC, "\u019b"), (0xA7F5, "\ua7f6"),
    (0xA7F8, "\u0127"), (0xA7F9, "\u0153"), (0xAB5C, "\ua727"),
    (0xAB5D, "\uab37"), (0xAB5E, "\u026b"), (0xAB5F, "\uab52"),
    (0xAB69, "\u028d"), (0xFA10, "塚"), (0xFA12, "晴"),
    (0xFA20, "蘒"), (0xFA22, "諸"), (0xFA25, "逸"), (0xFA26, "都"),
    (0xFB00, "ff"), (0xFB01, "fi"), (0xFB02, "fl"),
    (0xFB03, "ffi"), (0xFB04, "ffl"), (0xFB05, "st"),
    (0xFB06, "st"), (0xFB13, "\u0574\u0576"),
    (0xFB14, "\u0574\u0565"), (0xFB15, "\u0574\u056b"),
    (0xFB16, "\u057e\u0576"), (0xFB17, "\u0574\u056d"),
    (0xFB1D, "\u05d9\u05b4"), (0xFB1F, "\u05f2\u05b7"),
    (0xFB20, "\u05e2"), (0xFB21, "\u05d0"), (0xFB22, "\u05d3"),
    (0xFB23, "\u05d4"), (0xFB27, "\u05e8"), (0xFB28, "\u05ea"),
    (0xFB29, "+"), (0xFB2A, "\u05e9\u05c1"),
    (0xFB2B, "\u05e9\u05c2"), (0xFB2C, "\u05e9\u05bc\u05c1"),
    (0xFB2D, "\u05e9\u05bc\u05c2"), (0xFB2E, "\u05d0\u05b7"),
    (0xFB2F, "\u05d0\u05b8"), (0xFB30, "\u05d0\u05bc"),
    (0xFB31, "\u05d1\u05bc"), (0xFB32, "\u05d2\u05bc"),
    (0xFB33, "\u05d3\u05bc"), (0xFB34, "\u05d4\u05bc"),
    (0xFB35, "\u05d5\u05bc"), (0xFB36, "\u05d6\u05bc"),
    (0xFB38, "\u05d8\u05bc"), (0xFB39, "\u05d9\u05bc"),
    (0xFB3A, "\u05da\u05bc"), (0xFB3B, "\u05db\u05bc"),
    (0xFB3C, "\u05dc\u05bc"), (0xFB3E, "\u05de\u05bc"),
    (0xFB40, "\u05e0\u05bc"), (0xFB41, "\u05e1\u05bc"),
    (0xFB43, "\u05e3\u05bc"), (0xFB44, "\u05e4\u05bc"),
    (0xFB46, "\u05e6\u05bc"), (0xFB47, "\u05e7\u05bc"),
    (0xFB48, "\u05e8\u05bc"), (0xFB49, "\u05e9\u05bc"),
    (0xFB4A, "\u05ea\u05bc"), (0xFB4B, "\u05d5\u05b9"),
    (0xFB4C, "\u05d1\u05bf"), (0xFB4D, "\u05db\u05bf"),
    (0xFB4E, "\u05e4\u05bf"), (0xFB4F, "\u05d0\u05dc"),
    (0xFB50, "\u0671"), (0xFB51, "\u0671"), (0xFB52, "\u067b"),
    (0xFB53, "\u067b"), (0xFB54, "\u067b"), (0xFB55, "\u067b"),
    (0xFB56, "\u067e"), (0xFB57, "\u067e"), (0xFB58, "\u067e"),
    (0xFB59, "\u067e"), (0xFB5A, "\u0680"), (0xFB5B, "\u0680"),
    (0xFB5C, "\u0680"), (0xFB5D, "\u0680"), (0xFB5E, "\u067a"),
    (0xFB5F, "\u067a"), (0xFB60, "\u067a"), (0xFB61, "\u067a"),
    (0xFB62, "\u067f"), (0xFB63, "\u067f"), (0xFB64, "\u067f"),
    (0xFB65, "\u067f"), (0xFB66, "\u0679"), (0xFB67, "\u0679"),
    (0xFB68, "\u0679"), (0xFB69, "\u0679"), (0xFB6A, "\u06a4"),
    (0xFB6B, "\u06a4"), (0xFB6C, "\u06a4"), (0xFB6D, "\u06a4"),
    (0xFB6E, "\u06a6"), (0xFB6F, "\u06a6"), (0xFB70, "\u06a6"),
    (0xFB71, "\u06a6"), (0xFB72, "\u0684"), (0xFB73, "\u0684"),
    (0xFB74, "\u0684"), (0xFB75, "\u0684"), (0xFB76, "\u0683"),
    (0xFB77, "\u0683"), (0xFB78, "\u0683"), (0xFB79, "\u0683"),
    (0xFB7A, "\u0686"), (0xFB7B, "\u0686"), (0xFB7C, "\u0686"),
    (0xFB7D, "\u0686"), (0xFB7E, "\u0687"), (0xFB7F, "\u0687"),
    (0xFB80, "\u0687"), (0xFB81, "\u0687"), (0xFB82, "\u068d"),
    (0xFB83, "\u068d"), (0xFB84, "\u068c"), (0xFB85, "\u068c"),
    (0xFB86, "\u068e"), (0xFB87, "\u068e"), (0xFB88, "\u0688"),
    (0xFB89, "\u0688"), (0xFB8A, "\u0698"), (0xFB8B, "\u0698"),
    (0xFB8C, "\u0691"), (0xFB8D, "\u0691"), (0xFB8E, "\u06a9"),
    (0xFB8F, "\u06a9"), (0xFB90, "\u06a9"), (0xFB91, "\u06a9"),
    (0xFB92, "\u06af"), (0xFB93, "\u06af"), (0xFB94, "\u06af"),
    (0xFB95, "\u06af"), (0xFB96, "\u06b3"), (0xFB97, "\u06b3"),
    (0xFB98, "\u06b3"), (0xFB99, "\u06b3"), (0xFB9A, "\u06b1"),
    (0xFB9B, "\u06b1"), (0xFB9C, "\u06b1"), (0xFB9D, "\u06b1"),
    (0xFB9E, "\u06ba"), (0xFB9F, "\u06ba"), (0xFBA0, "\u06bb"),
    (0xFBA1, "\u06bb"), (0xFBA2, "\u06bb"), (0xFBA3, "\u06bb"),
    (0xFBA4, "\u06c0"), (0xFBA5, "\u06c0"), (0xFBA6, "\u06c1"),
    (0xFBA7, "\u06c1"), (0xFBA8, "\u06c1"), (0xFBA9, "\u06c1"),
    (0xFBAA, "\u06be"), (0xFBAB, "\u06be"), (0xFBAC, "\u06be"),
    (0xFBAD, "\u06be"), (0xFBAE, "\u06d2"), (0xFBAF, "\u06d2"),
    (0xFBB0, "\u06d3"), (0xFBB1, "\u06d3"), (0xFBD3, "\u06ad"),
    (0xFBD4, "\u06ad"), (0xFBD5, "\u06ad"), (0xFBD6, "\u06ad"),
    (0xFBD7, "\u06c7"), (0xFBD8, "\u06c7"), (0xFBD9, "\u06c6"),
    (0xFBDA, "\u06c6"), (0xFBDB, "\u06c8"), (0xFBDC, "\u06c8"),
    (0xFBDD, "\u06c7\u0674"), (0xFBDE, "\u06cb"),
    (0xFBDF, "\u06cb"), (0xFBE0, "\u06c5"), (0xFBE1, "\u06c5"),
    (0xFBE2, "\u06c9"), (0xFBE3, "\u06c9"), (0xFBE4, "\u06d0"),
    (0xFBE5, "\u06d0"), (0xFBE6, "\u06d0"), (0xFBE7, "\u06d0"),
    (0xFBE8, "\u0649"), (0xFBE9, "\u0649"),
    (0xFBEA, "\u0626\u0627"), (0xFBEB, "\u0626\u0627"),
    (0xFBEC, "\u0626\u06d5"), (0xFBED, "\u0626\u06d5"),
    (0xFBEE, "\u0626\u0648"), (0xFBEF, "\u0626\u0648"),
    (0xFBF0, "\u0626\u06c7"), (0xFBF1, "\u0626\u06c7"),
    (0xFBF2, "\u0626\u06c6"), (0xFBF3, "\u0626\u06c6"),
    (0xFBF4, "\u0626\u06c8"), (0xFBF5, "\u0626\u06c8"),
    (0xFBF6, "\u0626\u06d0"), (0xFBF7, "\u0626\u06d0"),
    (0xFBF8, "\u0626\u06d0"), (0xFBF9, "\u0626\u0649"),
    (0xFBFA, "\u0626\u0649"), (0xFBFB, "\u0626\u0649"),
    (0xFBFC, "\u06cc"), (0xFBFD, "\u06cc"), (0xFBFE, "\u06cc"),
    (0xFBFF, "\u06cc")
  ]

/- Replacements of the Arabic ligatures. -/
def ligatureReplacements : List (Nat × String) :=
  [
    (0xFC00, "\u0626\u062c"), (0xFC01, "\u0626\u062d"),
    (0xFC02, "\u0626\u0645"), (0xFC03, "\u0626\u0649"),
    (0xFC04, "\u0626\u064a"), (0xFC05, "\u0628\u062c"),
    (0xFC06, "\u0628\u062d"), (0xFC07, "\u0628\u062e"),
    (0xFC08, "\u0628\u0645"), (0xFC09, "\u0628\u0649"),
    (0xFC0A, "\u0628\u064a"), (0xFC0B, "\u062a\u062c"),
    (0xFC0C, "\u062a\u062d"), (0xFC0D, "\u062a\u062e"),
    (0xFC0E, "\u062a\u0645"), (0xFC0F, "\u062a\u0649"),
    (0xFC10, "\u062a\u064a"), (0xFC11, "\u062b\u062c"),
    (0xFC12, "\u062b\u0645"), (0xFC13, "\u062b\u0649"),
    (0xFC14, "\u062b\u064a"), (0xFC15, "\u062c\u062d"),
    (0xFC16, "\u062c\u0645"), (0xFC17, "\u062d\u062c"),
    (0xFC18, "\u062d\u0645"), (0xFC19, "\u062e\u062c"),
    (0xFC1A, "\u062e\u062d"), (0xFC1B, "\u062e\u0645"),
    (0xFC1C, "\u0633\u062c"), (0xFC1D, "\u0633\u062d"),
    (0xFC1E, "\u0633\u062e"), (0xFC1F, "\u0633\u0645"),
    (0xFC20, "\u0635\u062d"), (0xFC21, "\u0635\u0645"),
    (0xFC22, "\u0636\u062c"), (0xFC23, "\u0636\u062d"),
    (0xFC24, "\u0636\u062e"), (0xFC25, "\u0636\u0645"),
    (0xFC26, "\u0637\u062d"), (0xFC27, "\u0637\u0645"),
    (0xFC28, "\u0638\u0645"), (0xFC29, "\u0639\u062c"),
    (0xFC2A, "\u0639\u0645"), (0xFC2B, "\u063a\u062c"),
    (0xFC2C, "\u063a\u0645"), (0xFC2D, "\u0641\u062c"),
    (0xFC2E, "\u0641\u062d"), (0xFC2F, "\u0641\u062e"),
    (0xFC30, "\u0641\u0645"), (0xFC31, "\u0641\u0649"),
    (0xFC32, "\u0641\u064a"), (0xFC33, "\u0642\u062d"),
    (0xFC34, "\u0642\u0645"), (0xFC35, "\u0642\u0649"),
    (0xFC36, "\u0642\u064a"), (0xFC37, "\u0643\u0627"),
    (0xFC38, "\u0643\u062c"), (0xFC39, "\u0643\u062d"),
    (0xFC3A, "\u0643\u062e"), (0xFC3B, "\u0643\u0644"),
    (0xFC3C, "\u0643\u0645"), (0xFC3D, "\u0643\u0649"),
    (0xFC3E, "\u0643\u064a"), (0xFC3F, "\u0644\u062c"),
    (0xFC40, "\u0644\u062d"), (0xFC41, "\u0644\u062e"),
    (0xFC42, "\u0644\u0645"), (0xFC43, "\u0644\u0649"),
    (0xFC44, "\u0644\u064a"), (0xFC45, "\u0645\u062c"),
    (0xFC46, "\u0645\u062d"), (0xFC47, "\u0645\u062e"),
    (0xFC48, "\u0645\u0645"), (0xFC49, "\u0645\u0649"),
    (0xFC4A, "\u0645\u064a"), (0xFC4B, "\u0646\u062c"),
    (0xFC4C, "\u0646\u062d"), (0xFC4D, "\u0646\u062e"),
    (0xFC4E, "\u0646\u0645"), (0xFC4F, "\u0646\u0649"),
    (0xFC50, "\u0646\u064a"), (0xFC51, "\u0647\u062c"),
    (0xFC52, "\u0647\u0645"), (0xFC53, "\u0647\u0649"),
    (0xFC54, "\u0647\u064a"), (0xFC55, "\u064a\u062c"),
    (0xFC56, "\u064a\u062d"), (0xFC57, "\u064a\u062e"),
    (0xFC58, "\u064a\u0645"), (0xFC59, "\u064a\u0649"),
    (0xFC5A, "\u064a\u064a"), (0xFC5B, "\u0630\u0670"),
    (0xFC5C, "\u0631\u0670"), (0xFC5D, "\u0649\u0670"),
    (0xFC5E, " \u064c\u0651"), (0xFC5F, " \u064d\u0651"),
    (0xFC60, " \u064e\u0651"), (0xFC61, " \u064f\u0651"),
    (0xFC62, " \u0650\u0651"), (0xFC63, " \u0651\u0670"),
    (0xFC64, "\u0626\u0631"), (0xFC65, "\u0626\u0632"),
    (0xFC66, "\u0626\u0645"), (0xFC67, "\u0626\u0646"),
    (0xFC68, "\u0626\u0649"), (0xFC69, "\u0626\u064a"),
    (0xFC6A, "\u0628\u0631"), (0xFC6B, "\u0628\u0632"),
    (0xFC6C, "\u0628\u0645"), (0xFC6D, "\u0628\u0646"),
    (0xFC6E, "\u0628\u0649"), (0xFC6F, "\u0628\u064a"),
    (0xFC70, "\u062a\u0631"), (0xFC71, "\u062a\u0632"),
    (0xFC72, "\u062a\u0645"), (0xFC73, "\u062a\u0646"),
    (0xFC74, "\u062a\u0649"), (0xFC75, "\u062a\u064a"),
    (0xFC76, "\u062b\u0631"), (0xFC77, "\u062b\u0632"),
    (0xFC78, "\u062b\u0645"), (0xFC79, "\u062b\u0646"),
    (0xFC7A, "\u062b\u0649"), (0xFC7B, "\u062b\u064a"),
    (0xFC7C, "\u0641\u0649"), (0xFC7D, "\u0641\u064a"),
    (0xFC7E, "\u0642\u0649"), (0xFC7F, "\u0642\u064a"),
    (0xFC80, "\u0643\u0627"), (0xFC81, "\u0643\u0644"),
    (0xFC82, "\u0643\u0645"), (0xFC83, "\u0643\u0649"),
    (0xFC84, "\u0643\u064a"), (0xFC85, "\u0644\u0645"),
    (0xFC86, "\u0644\u0649"), (0xFC87, "\u0644\u064a"),
    (0xFC88, "\u0645\u0627"), (0xFC89, "\u0645\u0645"),
    (0xFC8A, "\u0646\u0631"), (0xFC8B, "\u0646\u0632"),
    (0xFC8C, "\u0646\u0645"), (0xFC8D, "\u0646\u0646"),
    (0xFC8E, "\u0646\u0649"), (0xFC8F, "\u0646\u064a"),
    (0xFC90, "\u0649\u0670"), (0xFC91, "\u064a\u0631"),
    (0xFC92, "\u064a\u0632"), (0xFC93, "\u064a\u0645"),
    (0xFC94, "\u064a\u0646"), (0xFC95, "\u064a\u0649"),
    (0xFC96, "\u064a\u064a"), (0xFC97, "\u0626\u062c"),
    (0xFC98, "\u0626\u062d"), (0xFC99, "\u0626\u062e"),
    (0xFC9A, "\u0626\u0645"), (0xFC9B, "\u0626\u0647"),
    (0xFC9C, "\u0628\u062c"), (0xFC9D, "\u0628\u062d"),
    (0xFC9E, "\u0628\u062e"), (0xFC9F, "\u0628\u0645"),
    (0xFCA0, "\u0628\u0647"), (0xFCA1, "\u062a\u062c"),
    (0xFCA2, "\u062a\u062d"), (0xFCA3, "\u062a\u062e"),
    (0xFCA4, "\u062a\u0645"), (0xFCA5, "\u062a\u0647"),
    (0xFCA6, "\u062b\u0645"), (0xFCA7, "\u062c\u062d"),
    (0xFCA8, "\u062c\u0645"), (0xFCA9, "\u062d\u062c"),
    (0xFCAA, "\u062d\u0645"), (0xFCAB, "\u062e\u062c"),
    (0xFCAC, "\u062e\u0645"), (0xFCAD, "\u0633\u062c"),
    (0xFCAE, "\u0633\u062d"), (0xFCAF, "\u0633\u062e"),
    (0xFCB0, "\u0633\u0645"), (0xFCB1, "\u0635\u062d"),
    (0xFCB2, "\u0635\u062e"), (0xFCB3, "\u0635\u0645"),
    (0xFCB4, "\u0636\u062c"), (0xFCB5, "\u0636\u062d"),
    (0xFCB6, "\u0636\u062e"), (0xFCB7, "\u0636\u0645"),
    (0xFCB8, "\u0637\u062d"), (0xFCB9, "\u0638\u0645"),
    (0xFCBA, "\u0639\u062c"), (0xFCBB, "\u0639\u0645"),
    (0xFCBC, "\u063a\u062c"), (0xFCBD, "\u063a\u0645"),
    (0xFCBE, "\u0641\u062c"), (0xFCBF, "\u0641\u062d"),
    (0xFCC0, "\u0641\u062e"), (0xFCC1, "\u0641\u0645"),
    (0xFCC2, "\u0642\u062d"), (0xFCC3, "\u0642\u0645"),
    (0xFCC4, "\u0643\u062c"), (0xFCC5, "\u0643\u062d"),
    (0xFCC6, "\u0643\u062e"), (0xFCC7, "\u0643\u0644"),
    (0xFCC8, "\u0643\u0645"), (0xFCC9, "\u0644\u062c"),
    (0xFCCA, "\u0644\u062d"), (0xFCCB, "\u0644\u062e"),
    (0xFCCC, "\u0644\u0645"), (0xFCCD, "\u0644\u0647"),
    (0xFCCE, "\u0645\u062c"), (0xFCCF, "\u0645\u062d"),
    (0xFCD0, "\u0645\u062e"), (0xFCD1, "\u0645\u0645"),
    (0xFCD2, "\u0646\u062c"), (0xFCD3, "\u0646\u062d"),
    (0xFCD4, "\u0646\u062e"), (0xFCD5, "\u0646\u0645"),
    (0xFCD6, "\u0646\u0647"), (0xFCD7, "\u0647\u062c"),
    (0xFCD8, "\u0647\u0645"), (0xFCD9, "\u0647\u0670"),
    (0xFCDA, "\u064a\u062c"), (0xFCDB, "\u064a\u062d"),
    (0xFCDC, "\u064a\u062e"), (0xFCDD, "\u064a\u0645"),
    (0xFCDE, "\u064a\u0647"), (0xFCDF, "\u0626\u0645"),
    (0xFCE0, "\u0626\u0647"), (0xFCE1, "\u0628\u0645"),
    (0xFCE2, "\u0628\u0647"), (0xFCE3, "\u062a\u0645"),
    (0xFCE4, "\u062a\u0647"), (0xFCE5, "\u062b\u0645"),
    (0xFCE6, "\u062b\u0647"), (0xFCE7, "\u0633\u0645"),
    (0xFCE8, "\u0633\u0647"), (0xFCE9, "\u0634\u0645"),
    (0xFCEA, "\u0634\u0647"), (0xFCEB, "\u0643\u0644"),
    (0xFCEC, "\u0643\u0645"), (0xFCED, "\u0644\u0645"),
    (0xFCEE, "\u0646\u0645"), (0xFCEF, "\u0646\u0647"),
    (0xFCF0, "\u064a\u0645"), (0xFCF1, "\u064a\u0647"),
    (0xFCF2, "\u0640\u064e\u0651"),
    (0xFCF3, "\u0640\u064f\u0651"),
    (0xFCF4, "\u0640\u0650\u0651"), (0xFCF5, "\u0637\u0649"),
    (0xFCF6, "\u0637\u064a"), (0xFCF7, "\u0639\u0649"),
    (0xFCF8, "\u0639\u064a"), (0xFCF9, "\u063a\u0649"),
    (0xFCFA, "\u063a\u064a"), (0xFCFB, "\u0633\u0649"),
    (0xFCFC, "\u0633\u064a"), (0xFCFD, "\u0634\u0649"),
    (0xFCFE, "\u0634\u064a"), (0xFCFF, "\u062d\u0649"),
    (0xFD00, "\u062d\u064a"), (0xFD01, "\u062c\u0649"),
    (0xFD02, "\u062c\u064a"), (0xFD03, "\u062e\u0649"),
    (0xFD04, "\u062e\u064a"), (0xFD05, "\u0635\u0649"),
    (0xFD06, "\u0635\u064a"), (0xFD07, "\u0636\u0649"),
    (0xFD08, "\u0636\u064a"), (0xFD09, "\u0634\u062c"),
    (0xFD0A, "\u0634\u062d"), (0xFD0B, "\u0634\u062e"),
    (0xFD0C, "\u0634\u0645"), (0xFD0D, "\u0634\u0631"),
    (0xFD0E, "\u0633\u0631"), (0xFD0F, "\u0635\u0631"),
    (0xFD10, "\u0636\u0631"), (0xFD11, "\u0637\u0649"),
    (0xFD12, "\u0637\u064a"), (0xFD13, "\u0639\u0649"),
    (0xFD14, "\u0639\u064a"), (0xFD15, "\u063a\u0649"),
    (0xFD16, "\u063a\u064a"), (0xFD17, "\u0633\u0649"),
    (0xFD18, "\u0633\u064a"), (0xFD19, "\u0634\u0649"),
    (0xFD1A, "\u0634\u064a"), (0xFD1B, "\u062d\u0649"),
    (0xFD1C, "\u062d\u064a"), (0xFD1D, "\u062c\u0649"),
    (0xFD1E, "\u062c\u064a"), (0xFD1F, "\u062e\u0649"),
    (0xFD20, "\u062e\u064a"), (0xFD21, "\u0635\u0649"),
    (0xFD22, "\u0635\u064a"), (0xFD23, "\u0636\u0649"),
    (0xFD24, "\u0636\u064a"), (0xFD25, "\u0634\u062c"),
    (0xFD26, "\u0634\u062d"), (0xFD27, "\u0634\u062e"),
    (0xFD28, "\u0634\u0645"), (0xFD29, "\u0634\u0631"),
    (0xFD2A, "\u0633\u0631"), (0xFD2B, "\u0635\u0631"),
    (0xFD2C, "\u0636\u0631"), (0xFD2D, "\u0634\u062c"),
    (0xFD2E, "\u0634\u062d"), (0xFD2F, "\u0634\u062e"),
    (0xFD30, "\u0634\u0645"), (0xFD31, "\u0633\u0647"),
    (0xFD32, "\u0634\u0647"), (0xFD33, "\u0637\u0645"),
    (0xFD34, "\u0633\u062c"), (0xFD35, "\u0633\u062d"),
    (0xFD36, "\u0633\u062e"), (0xFD37, "\u0634\u062c"),
    (0xFD38, "\u0634\u062d"), (0xFD39, "\u0634\u062e"),
    (0xFD3A, "\u0637\u0645"), (0xFD3B, "\u0638\u0645"),
    (0xFD3C, "\u0627\u064b"), (0xFD3D, "\u0627\u064b"),
    (0xFD50, "\u062a\u062c\u0645"),
    (0xFD51, "\u062a\u062d\u062c"),
    (0xFD52, "\u062a\u062d\u062c"),
    (0xFD53, "\u062a\u062d\u0645"),
    (0xFD54, "\u062a\u062e\u0645"),
    (0xFD55, "\u062a\u0645\u062c"),
    (0xFD56, "\u062a\u0645\u062d"),
    (0xFD57, "\u062a\u0645\u062e"),
    (0xFD58, "\u062c\u0645\u062d"),
    (0xFD59, "\u062c\u0645\u062d"),
    (0xFD5A, "\u062d\u0645\u064a"),
    (0xFD5B, "\u062d\u0645\u0649"),
    (0xFD5C, "\u0633\u062d\u062c"),
    (0xFD5D, "\u0633\u062c\u062d"),
    (0xFD5E, "\u0633\u062c\u0649"),
    (0xFD5F, "\u0633\u0645\u062d"),
    (0xFD60, "\u0633\u0645\u062d"),
    (0xFD61, "\u0633\u0645\u062c"),
    (0xFD62, "\u0633\u0645\u0645"),
    (0xFD63, "\u0633\u0645\u0645"),
    (0xFD64, "\u0635\u062d\u062d"),
    (0xFD65, "\u0635\u062d\u062d"),
    (0xFD66, "\u0635\u0645\u0645"),
    (0xFD67, "\u0634\u062d\u0645"),
    (0xFD68, "\u0634\u062d\u0645"),
    (0xFD69, "\u0634\u062c\u064a"),
    (0xFD6A, "\u0634\u0645\u062e"),
    (0xFD6B, "\u0634\u0645\u062e"),
    (0xFD6C, "\u0634\u0645\u0645"),
    (0xFD6D, "\u0634\u0645\u0645"),
    (0xFD6E, "\u0636\u062d\u0649"),
    (0xFD6F, "\u0636\u062e\u0645"),
    (0xFD70, "\u0636\u062e\u0645"),
    (0xFD71, "\u0637\u0645\u062d"),
    (0xFD72, "\u0637\u0645\u062d"),
    (0xFD73, "\u0637\u0645\u0645"),
    (0xFD74, "\u0637\u0645\u064a"),
    (0xFD75, "\u0639\u062c\u0645"),
    (0xFD76, "\u0639\u0645\u0645"),
    (0xFD77, "\u0639\u0645\u0645"),
    (0xFD78, "\u0639\u0645\u0649"),
    (0xFD79, "\u063a\u0645\u0645"),
    (0xFD7A, "\u063a\u0645\u064a"),
    (0xFD7B, "\u063a\u0645\u0649"),
    (0xFD7C, "\u0641\u062e\u0645"),
    (0xFD7D, "\u0641\u062e\u0645"),
    (0xFD7E, "\u0642\u0645\u062d"),
    (0xFD7F, "\u0642\u0645\u0645"),
    (0xFD80, "\u0644\u062d\u0645"),
    (0xFD81, "\u0644\u062d\u064a"),
    (0xFD82, "\u0644\u062d\u0649"),
    (0xFD83, "\u0644\u062c\u062c"),
    (0xFD84, "\u0644\u062c\u062c"),
    (0xFD85, "\u0644\u062e\u0645"),
    (0xFD86, "\u0644\u062e\u0645"),
    (0xFD87, "\u0644\u0645\u062d"),
    (0xFD88, "\u0644\u0645\u062d"),
    (0xFD89, "\u0645\u062d\u062c"),
    (0xFD8A, "\u0645\u062d\u0645"),
    (0xFD8B, "\u0645\u062d\u064a"),
    (0xFD8C, "\u0645\u062c\u062d"),
    (0xFD8D, "\u0645\u062c\u0645"),
    (0xFD8E, "\u0645\u062e\u062c"),
    (0xFD8F, "\u0645\u062e\u0645"),
    (0xFD92, "\u0645\u062c\u062e"),
    (0xFD93, "\u0647\u0645\u062c"),
    (0xFD94, "\u0647\u0645\u0645"),
    (0xFD95, "\u0646\u062d\u0645"),
    (0xFD96, "\u0646\u062d\u0649"),
    (0xFD97, "\u0646\u062c\u0645"),
    (0xFD98, "\u0646\u062c\u0645"),
    (0xFD99, "\u0646\u062c\u0649"),
    (0xFD9A, "\u0646\u0645\u064a"),
    (0xFD9B, "\u0646\u0645\u0649"),
    (0xFD9C, "\u064a\u0645\u0645"),
    (0xFD9D, "\u064a\u0645\u0645"),
    (0xFD9E, "\u0628\u062e\u064a"),
    (0xFD9F, "\u062a\u062c\u064a"),
    (0xFDA0, "\u062a\u062c\u0649"),
    (0xFDA1, "\u062a\u062e\u064a"),
    (0xFDA2, "\u062a\u062e\u0649"),
    (0xFDA3, "\u062a\u0645\u064a"),
    (0xFDA4, "\u062a\u0645\u0649"),
    (0xFDA5, "\u062c\u0645\u064a"),
    (0xFDA6, "\u062c\u062d\u0649"),
    (0xFDA7, "\u062c\u0645\u0649"),
    (0xFDA8, "\u0633\u062e\u0649"),
    (0xFDA9, "\u0635\u062d\u064a"),
    (0xFDAA, "\u0634\u062d\u064a"),
    (0xFDAB, "\u0636\u062d\u064a"),
    (0xFDAC, "\u0644\u062c\u064a"),
    (0xFDAD, "\u0644\u0645\u064a"),
    (0xFDAE, "\u064a\u062d\u064a"),
    (0xFDAF, "\u064a\u062c\u064a"),
    (0xFDB0, "\u064a\u0645\u064a"),
    (0xFDB1, "\u0645\u0645\u064a"),
    (0xFDB2, "\u0642\u0645\u064a"),
    (0xFDB3, "\u0646\u062d\u064a"),
    (0xFDB4, "\u0642\u0645\u062d"),
    (0xFDB5, "\u0644\u062d\u0645"),
    (0xFDB6, "\u0639\u0645\u064a"),
    (0xFDB7, "\u0643\u0645\u064a"),
    (0xFDB8, "\u0646\u062c\u062d"),
    (0xFDB9, "\u0645\u062e\u064a"),
    (0xFDBA, "\u0644\u062c\u0645"),
    (0xFDBB, "\u0643\u0645\u0645"),
    (0xFDBC, "\u0644\u062c\u0645"),
    (0xFDBD, "\u0646\u062c\u062d"),
    (0xFDBE, "\u062c\u062d\u064a"),
    (0xFDBF, "\u062d\u062c\u064a"),
    (0xFDC0, "\u0645\u062c\u064a"),
    (0xFDC1, "\u0641\u0645\u064a"),
    (0xFDC2, "\u0628\u062d\u064a"),
    (0xFDC3, "\u0643\u0645\u0645"),
    (0xFDC4, "\u0639\u062c\u0645"),
    (0xFDC5, "\u0635\u0645\u0645"),
    (0xFDC6, "\u0633\u062e\u064a"),
    (0xFDC7, "\u0646\u062c\u064a"),
    (0xFDF0, "\u0635\u0644\u06d2"),
    (0xFDF1, "\u0642\u0644\u06d2"),
    (0xFDF2, "\u0627\u0644\u0644\u0647"),
    (0xFDF3, "\u0627\u0643\u0628\u0631"),
    (0xFDF4, "\u0645\u062d\u0645\u062f"),
    (0xFDF5, "\u0635\u0644\u0639\u0645"),
    (0xFDF6, "\u0631\u0633\u0648\u0644"),
    (0xFDF7, "\u0639\u0644\u064a\u0647"),
    (0xFDF8, "\u0648\u0633\u0644\u0645"),
    (0xFDF9, "\u0635\u0644\u0649"),
    (0xFDFA, "\u0635\u0644\u0649 \u0627\u0644\u0644\u0647 \u0639\u0644\u064a\u0647 \u0648\u0633\u0644\u0645"),
    (0xFDFB, "\u062c\u0644 \u062c\u0644\u0627\u0644\u0647"),
    (0xFDFC, "\u0631\u06cc\u0627\u0644")
  ]

/- Replacements of vertical, small and wide forms. -/
def formReplacements : List (Nat × String) :=
  [
    (0xFE10, ","), (0xFE11, "\u3001"), (0xFE17, "\u3016"),
    (0xFE18, "\u3017"), (0xFE31, "\u2014"), (0xFE32, "\u2013"),
    (0xFE39, "\u3014"), (0xFE3A, "\u3015"), (0xFE3B, "\u3010"),
    (0xFE3C, "\u3011"), (0xFE3D, "\u300a"), (0xFE3E, "\u300b"),
    (0xFE3F, "\u3008"), (0xFE40, "\u3009"), (0xFE47, "["),
    (0xFE48, "]"), (0xFE49, " \u0305"), (0xFE4A, " \u0305"),
    (0xFE4B, " \u0305"), (0xFE4C, " \u0305"), (0xFE51, "\u3001"),
    (0xFE58, "\u2014"), (0xFE5D, "\u3014"), (0xFE5E, "\u3015"),
    (0xFE68, "\\"), (0xFE69, "$"), (0xFE6A, "%"), (0xFE6B, "@"),
    (0xFE70, " \u064b"), (0xFE71, "\u0640\u064b"),
    (0xFE72, " \u064c"), (0xFE74, " \u064d"),
    (0xFE76, " \u064e"), (0xFE77, "\u0640\u064e"),
    (0xFE78, " \u064f"), (0xFE79, "\u0640\u064f"),
    (0xFE7A, " \u0650"), (0xFE7B, "\u0640\u0650"),
    (0xFE7C, " \u0651"), (0xFE7D, "\u0640\u0651"),
    (0xFE7E, " \u0652"), (0xFE7F, "\u0640\u0652"),
    (0xFE80, "\u0621"), (0xFE81, "\u0622"), (0xFE82, "\u0622"),
    (0xFE83, "\u0623"), (0xFE84, "\u0623"), (0xFE85, "\u0624"),
    (0xFE86, "\u0624"), (0xFE87, "\u0625"), (0xFE88, "\u0625"),
    (0xFE89, "\u0626"), (0xFE8A, "\u0626"), (0xFE8B, "\u0626"),
    (0xFE8C, "\u0626"), (0xFE8D, "\u0627"), (0xFE8E, "\u0627"),
    (0xFE8F, "\u0628"), (0xFE90, "\u0628"), (0xFE91, "\u0628"),
    (0xFE92, "\u0628"), (0xFE93, "\u0629"), (0xFE94, "\u0629"),
    (0xFE95, "\u062a"), (0xFE96, "\u062a"), (0xFE97, "\u062a"),
    (0xFE98, "\u062a"), (0xFE99, "\u062b"), (0xFE9A, "\u062b"),
    (0xFE9B, "\u062b"), (0xFE9C, "\u062b"), (0xFE9D, "\u062c"),
    (0xFE9E, "\u062c"), (0xFE9F, "\u062c"), (0xFEA0, "\u062c"),
    (0xFEA1, "\u062d"), (0xFEA2, "\u062d"), (0xFEA3, "\u062d"),
    (0xFEA4, "\u062d"), (0xFEA5, "\u062e"), (0xFEA6, "\u062e"),
    (0xFEA7, "\u062e"), (0xFEA8, "\u062e"), (0xFEA9, "\u062f"),
    (0xFEAA, "\u062f"), (0xFEAB, "\u0630"), (0xFEAC, "\u0630"),
    (0xFEAD, "\u0631"), (0xFEAE, "\u0631"), (0xFEAF, "\u0632"),
    (0xFEB0, "\u0632"), (0xFEB1, "\u0633"), (0xFEB2, "\u0633"),
    (0xFEB3, "\u0633"), (0xFEB4, "\u0633"), (0xFEB5, "\u0634"),
    (0xFEB6, "\u0634"), (0xFEB7, "\u0634"), (0xFEB8, "\u0634"),
    (0xFEB9, "\u0635"), (0xFEBA, "\u0635"), (0xFEBB, "\u0635"),
    (0xFEBC, "\u0635"), (0xFEBD, "\u0636"), (0xFEBE, "\u0636"),
    (0xFEBF, "\u0636"), (0xFEC0, "\u0636"), (0xFEC1, "\u0637"),
    (0xFEC2, "\u0637"), (0xFEC3, "\u0637"), (0xFEC4, "\u0637"),
    (0xFEC5, "\u0638"), (0xFEC6, "\u0638"), (0xFEC7, "\u0638"),
    (0xFEC8, "\u0638"), (0xFEC9, "\u0639"), (0xFECA, "\u0639"),
    (0xFECB, "\u0639"), (0xFECC, "\u0639"), (0xFECD, "\u063a"),
    (0xFECE, "\u063a"), (0xFECF, "\u063a"), (0xFED0, "\u063a"),
    (0xFED1, "\u0641"), (0xFED2, "\u0641"), (0xFED3, "\u0641"),
    (0xFED4, "\u0641"), (0xFED5, "\u0642"), (0xFED6, "\u0642"),
    (0xFED7, "\u0642"), (0xFED8, "\u0642"), (0xFED9, "\u0643"),
    (0xFEDA, "\u0643"), (0xFEDB, "\u0643"), (0xFEDC, "\u0643"),
    (0xFEDD, "\u0644"), (0xFEDE, "\u0644"), (0xFEDF, "\u0644"),
    (0xFEE0, "\u0644"), (0xFEE1, "\u0645"), (0xFEE2, "\u0645"),
    (0xFEE3, "\u0645"), (0xFEE4, "\u0645"), (0xFEE5, "\u0646"),
    (0xFEE6, "\u0646"), (0xFEE7, "\u0646"), (0xFEE8, "\u0646"),
    (0xFEE9, "\u0647"), (0xFEEA, "\u0647"), (0xFEEB, "\u0647"),
    (0xFEEC, "\u0647"), (0xFEED, "\u0648"), (0xFEEE, "\u0648"),
    (0xFEEF, "\u0649"), (0xFEF0, "\u0649"), (0xFEF1, "\u064a"),
    (0xFEF2, "\u064a"), (0xFEF3, "\u064a"), (0xFEF4, "\u064a"),
    (0xFEF5, "\u0644\u0622"), (0xFEF6, "\u0644\u0622"),
    (0xFEF7, "\u0644\u0623"), (0xFEF8, "\u0644\u0623"),
    (0xFEF9, "\u0644\u0625"), (0xFEFA, "\u0644\u0625"),
    (0xFEFB, "\u0644\u0627"), (0xFEFC, "\u0644\u0627"),
    (0xFF5F, "\u2985"), (0xFF60, "\u2986"), (0xFF61, "."),
    (0xFF62, "\u300c"), (0xFF63, "\u300d"), (0xFF64, "\u3001"),
    (0xFF94, "ヤ"), (0xFF95, "ユ"), (0xFFA1, "\u1100"),
    (0xFFA2, "\u1101"), (0xFFA3, "\u11aa"), (0xFFA4, "\u1102"),
    (0xFFA5, "\u11ac"), (0xFFA6, "\u11ad"), (0xFFB0, "\u111a"),
    (0xFFB4, "\u1121"), (0xFFE0, "\xa2"), (0xFFE1, "\xa3"),
    (0xFFE2, "\xac"), (0xFFE3, " \u0304"), (0xFFE4, "\xa6"),
    (0xFFE5, "\xa5"), (0xFFE6, "\u20a9"), (0xFFE8, "\u2502"),
    (0xFFED, "\u25a0"), (0xFFEE, "\u25cb")
  ]

/- Replacements of characters past the first plane. -/
def supplementaryReplacements : List (Nat × String) :=
  [
    (0x10595, "𐖼"), (0x10781, "\u02d0"), (0x10782, "\u02d1"),
    (0x10783, "\xe6"), (0x10784, "\u0299"), (0x10785, "\u0253"),
    (0x10787, "\u02a3"), (0x10788, "\uab66"),
    (0x10789, "\u02a5"), (0x1078A, "\u02a4"),
    (0x1078B, "\u0256"), (0x1078C, "\u0257"),
    (0x1078D, "\u1d91"), (0x1078E, "\u0258"),
    (0x1078F, "\u025e"), (0x10790, "\u02a9"),
    (0x10791, "\u0264"), (0x10792, "\u0262"),
    (0x10793, "\u0260"), (0x10794, "\u029b"),
    (0x10795, "\u0127"), (0x10796, "\u029c"),
    (0x10797, "\u0267"), (0x10798, "\u0284"),
    (0x10799, "\u02aa"), (0x1079A, "\u02ab"),
    (0x1079B, "\u026c"), (0x1079C, "𝼄"), (0x1079D, "\ua78e"),
    (0x1079E, "\u026e"), (0x1079F, "𝼅"), (0x107A0, "\u028e"),
    (0x107A1, "𝼆"), (0x107A2, "\xf8"), (0x107A3, "\u0276"),
    (0x107A4, "\u0277"), (0x107A5, "q"), (0x107A6, "\u027a"),
    (0x107A7, "𝼈"), (0x107A8, "\u027d"), (0x107A9, "\u027e"),
    (0x107AA, "\u0280"), (0x107AB, "\u02a8"),
    (0x107AC, "\u02a6"), (0x107AD, "\uab67"),
    (0x107AE, "\u02a7"), (0x107AF, "\u0288"),
    (0x107B0, "\u2c71"), (0x107B2, "\u028f"),
    (0x107B3, "\u02a1"), (0x107B4, "\u02a2"),
    (0x107B5, "\u0298"), (0x107B9, "𝼊"), (0x107BA, "𝼞"),
    (0x1D15E, "𝅗𝅥"), (0x1D15F, "𝅘𝅥"), (0x1D160, "𝅘𝅥𝅮"),
    (0x1D161, "𝅘𝅥𝅯"), (0x1D162, "𝅘𝅥𝅰"), (0x1D163, "𝅘𝅥𝅱"),
    (0x1D164, "𝅘𝅥𝅲"), (0x1D1BB, "𝆹𝅥"), (0x1D1BC, "𝆺𝅥"),
    (0x1D1BD, "𝆹𝅥𝅮"), (0x1D1BE, "𝆺𝅥𝅮"), (0x1D1BF, "𝆹𝅥𝅯"),
    (0x1D1C0, "𝆺𝅥𝅯"), (0x1D49C, "a"), (0x1D49E, "c"),
    (0x1D49F, "d"), (0x1D4A2, "g"), (0x1D4A5, "j"),
    (0x1D4A6, "k"), (0x1D504, "a"), (0x1D508, "e"),
    (0x1D50A, "g"), (0x1D538, "a"), (0x1D541, "j"),
    (0x1D543, "l"), (0x1D6A4, "\u0131"), (0x1D6A5, "\u0237"),
    (0x1D6B9, "\u03b8"), (0x1D6C1, "\u2207"),
    (0x1D6D3, "\u03c3"), (0x1D6DB, "\u2202"),
    (0x1D6DC, "\u03b5"), (0x1D6DD, "\u03b8"),
    (0x1D6DE, "\u03ba"), (0x1D6DF, "\u03c6"),
    (0x1D6E0, "\u03c1"), (0x1D6E1, "\u03c0"),
    (0x1D6F3, "\u03b8"), (0x1D6FB, "\u2207"),
    (0x1D70D, "\u03c3"), (0x1D715, "\u2202"),
    (0x1D716, "\u03b5"), (0x1D717, "\u03b8"),
    (0x1D718, "\u03ba"), (0x1D719, "\u03c6"),
    (0x1D71A, "\u03c1"), (0x1D71B, "\u03c0"),
    (0x1D72D, "\u03b8"), (0x1D735, "\u2207"),
    (0x1D747, "\u03c3"), (0x1D74F, "\u2202"),
    (0x1D750, "\u03b5"), (0x1D751, "\u03b8"),
    (0x1D752, "\u03ba"), (0x1D753, "\u03c6"),
    (0x1D754, "\u03c1"), (0x1D755, "\u03c0"),
    (0x1D767, "\u03b8"), (0x1D76F, "\u2207"),
    (0x1D781, "\u03c3"), (0x1D789, "\u2202"),
    (0x1D78A, "\u03b5"), (0x1D78B, "\u03b8"),
    (0x1D78C, "\u03ba"), (0x1D78D, "\u03c6"),
    (0x1D78E, "\u03c1"), (0x1D78F, "\u03c0"),
    (0x1D7A1, "\u03b8"), (0x1D7A9, "\u2207"),
    (0x1D7BB, "\u03c3"), (0x1D7C3, "\u2202"),
    (0x1D7C4, "\u03b5"), (0x1D7C5, "\u03b8"),
    (0x1D7C6, "\u03ba"), (0x1D7C7, "\u03c6"),
    (0x1D7C8, "\u03c1"), (0x1D7C9, "\u03c0"),
    (0x1D7CA, "\u03dd"), (0x1D7CB, "\u03dd"),
    (0x1E047, "\u044b"), (0x1E048, "\u044d"),
    (0x1E049, "\u044e"), (0x1E04A, "\ua689"),
    (0x1E04B, "\u04d9"), (0x1E04C, "\u0456"),
    (0x1E04D, "\u0458"), (0x1E04E, "\u04e9"),
    (0x1E04F, "\u04af"), (0x1E050, "\u04cf"),
    (0x1E05A, "\u043a"), (0x1E05B, "\u043b"),
    (0x1E05C, "\u043e"), (0x1E05D, "\u043f"),
    (0x1E05E, "\u0441"), (0x1E065, "\u044a"),
    (0x1E066, "\u044b"), (0x1E067, "\u0491"),
    (0x1E068, "\u0456"), (0x1E069, "\u0455"),
    (0x1E06A, "\u045f"), (0x1E06B, "\u04ab"),
    (0x1E06C, "\ua651"), (0x1E06D, "\u04b1"),
    (0x1EE00, "\u0627"), (0x1EE01, "\u0628"),
    (0x1EE02, "\u062c"), (0x1EE03, "\u062f"),
    (0x1EE05, "\u0648"), (0x1EE06, "\u0632"),
    (0x1EE07, "\u062d"), (0x1EE08, "\u0637"),
    (0x1EE09, "\u064a"), (0x1EE0E, "\u0633"),
    (0x1EE0F, "\u0639"), (0x1EE10, "\u0641"),
    (0x1EE11, "\u0635"), (0x1EE12, "\u0642"),
    (0x1EE13, "\u0631"), (0x1EE14, "\u0634"),
    (0x1EE15, "\u062a"), (0x1EE16, "\u062b"),
    (0x1EE17, "\u062e"), (0x1EE18, "\u0630"),
    (0x1EE19, "\u0636"), (0x1EE1A, "\u0638"),
    (0x1EE1B, "\u063a"), (0x1EE1C, "\u066e"),
    (0x1EE1D, "\u06ba"), (0x1EE1E, "\u06a1"),
    (0x1EE1F, "\u066f"), (0x1EE21, "\u0628"),
    (0x1EE22, "\u062c"), (0x1EE24, "\u0647"),
    (0x1EE27, "\u062d"), (0x1EE29, "\u064a"),
    (0x1EE2E, "\u0633"), (0x1EE2F, "\u0639"),
    (0x1EE30, "\u0641"), (0x1EE31, "\u0635"),
    (0x1EE32, "\u0642"), (0x1EE34, "\u0634"),
    (0x1EE35, "\u062a"), (0x1EE36, "\u062b"),
    (0x1EE37, "\u062e"), (0x1EE39, "\u0636"),
    (0x1EE3B, "\u063a"), (0x1EE42, "\u062c"),
    (0x1EE47, "\u062d"), (0x1EE49, "\u064a"),
    (0x1EE4B, "\u0644"), (0x1EE4D, "\u0646"),
    (0x1EE4E, "\u0633"), (0x1EE4F, "\u0639"),
    (0x1EE51, "\u0635"), (0x1EE52, "\u0642"),
    (0x1EE54, "\u0634"), (0x1EE57, "\u062e"),
    (0x1EE59, "\u0636"), (0x1EE5B, "\u063a"),
    (0x1EE5D, "\u06ba"), (0x1EE5F, "\u066f"),
    (0x1EE61, "\u0628"), (0x1EE62, "\u062c"),
    (0x1EE64, "\u0647"), (0x1EE67, "\u062d"),
    (0x1EE68, "\u0637"), (0x1EE69, "\u064a"),
    (0x1EE6A, "\u0643"), (0x1EE6C, "\u0645"),
    (0x1EE6D, "\u0646"), (0x1EE6E, "\u0633"),
    (0x1EE6F, "\u0639"), (0x1EE70, "\u0641"),
    (0x1EE71, "\u0635"), (0x1EE72, "\u0642"),
    (0x1EE74, "\u0634"), (0x1EE75, "\u062a"),
    (0x1EE76, "\u062b"), (0x1EE77, "\u062e"),
    (0x1EE79, "\u0636"), (0x1EE7A, "\u0638"),
    (0x1EE7B, "\u063a"), (0x1EE7C, "\u066e"),
    (0x1EE7E, "\u06a1"), (0x1EE80, "\u0627"),
    (0x1EE81, "\u0628"), (0x1EE82, "\u062c"),
    (0x1EE83, "\u062f"), (0x1EE84, "\u0647"),
    (0x1EE85, "\u0648"), (0x1EE86, "\u0632"),
    (0x1EE87, "\u062d"), (0x1EE88, "\u0637"),
    (0x1EE89, "\u064a"), (0x1EE8E, "\u0633"),
    (0x1EE8F, "\u0639"), (0x1EE90, "\u0641"),
    (0x1EE91, "\u0635"), (0x1EE92, "\u0642"),
    (0x1EE93, "\u0631"), (0x1EE94, "\u0634"),
    (0x1EE95, "\u062a"), (0x1EE96, "\u062b"),
    (0x1EE97, "\u062e"), (0x1EE98, "\u0630"),
    (0x1EE99, "\u0636"), (0x1EE9A, "\u0638"),
    (0x1EE9B, "\u063a"), (0x1EEA1, "\u0628"),
    (0x1EEA2, "\u062c"), (0x1EEA3, "\u062f"),
    (0x1EEA5, "\u0648"), (0x1EEA6, "\u0632"),
    (0x1EEA7, "\u062d"), (0x1EEA8, "\u0637"),
    (0x1EEA9, "\u064a"), (0x1EEAE, "\u0633"),
    (0x1EEAF, "\u0639"), (0x1EEB0, "\u0641"),
    (0x1EEB1, "\u0635"), (0x1EEB2, "\u0642"),
    (0x1EEB3, "\u0631"), (0x1EEB4, "\u0634"),
    (0x1EEB5, "\u062a"), (0x1EEB6, "\u062b"),
    (0x1EEB7, "\u062e"), (0x1EEB8, "\u0630"),
    (0x1EEB9, "\u0636"), (0x1EEBA, "\u0638"),
    (0x1EEBB, "\u063a"), (0x1F101, "0,"), (0x1F102, "1,"),
    (0x1F103, "2,"), (0x1F104, "3,"), (0x1F105, "4,"),
    (0x1F106, "5,"), (0x1F107, "6,"), (0x1F108, "7,"),
    (0x1F109, "8,"), (0x1F10A, "9,"), (0x1F110, "(a)"),
    (0x1F111, "(b)"), (0x1F112, "(c)"), (0x1F113, "(d)"),
    (0x1F114, "(e)"), (0x1F115, "(f)"), (0x1F116, "(g)"),
    (0x1F117, "(h)"), (0x1F118, "(i)"), (0x1F119, "(j)"),
    (0x1F11A, "(k)"), (0x1F11B, "(l)"), (0x1F11C, "(m)"),
    (0x1F11D, "(n)"), (0x1F11E, "(o)"), (0x1F11F, "(p)"),
    (0x1F120, "(q)"), (0x1F121, "(r)"), (0x1F122, "(s)"),
    (0x1F123, "(t)"), (0x1F124, "(u)"), (0x1F125, "(v)"),
    (0x1F126, "(w)"), (0x1F127, "(x)"), (0x1F128, "(y)"),
    (0x1F129, "(z)"), (0x1F12A, "\u3014s\u3015"), (0x1F12B, "c"),
    (0x1F12C, "r"), (0x1F12D, "cd"), (0x1F12E, "wz"),
    (0x1F14A, "hv"), (0x1F14B, "mv"), (0x1F14C, "sd"),
    (0x1F14D, "ss"), (0x1F14E, "ppv"), (0x1F14F, "wc"),
    (0x1F16A, "mc"), (0x1F16B, "md"), (0x1F16C, "mr"),
    (0x1F190, "dj"), (0x1F200, "ほか"), (0x1F201, "ココ"),
    (0x1F202, "サ"), (0x1F240, "\u3014本\u3015"),
    (0x1F241, "\u3014三\u3015"), (0x1F242, "\u3014二\u3015"),
    (0x1F243, "\u3014安\u3015"), (0x1F244, "\u3014点\u3015"),
    (0x1F245, "\u3014打\u3015"), (0x1F246, "\u3014盗\u3015"),
    (0x1F247, "\u3014勝\u3015"), (0x1F248, "\u3014敗\u3015"),
    (0x1F250, "得"), (0x1F251, "可")
  ]

/- Single characters and the texts that they stand for. -/
def replacements : List (Nat × String) :=
  scriptReplacements ++ symbolReplacements
    ++ squareReplacements ++ letterReplacements
    ++ ligatureReplacements ++ formReplacements
    ++ supplementaryReplacements

end Domain

end LostProperty
