import LostProperty.Text.Unprintable

/-
  The one composed spelling of a text.

  A letter with marks can be written in several ways. Taken
  apart as far as it goes, with the marks of each letter in
  the order of their combining classes, and put together
  again from the left, all of them have one spelling: the
  canonical composition.

  Key definitions include:
    * `Text.combiningClass`
    * `Text.pairs`
    * `Text.composed`
-/

------------------------------------------------------------
-- Combining Classes
------------------------------------------------------------

namespace LostProperty

namespace Text

/- The classes above zero, each with its code points. -/
def combiningClasses : List (Nat × List (Nat × Nat)) :=
  [
    (1, [
      (0x334, 0x338), (0x1CD4, 0x1CD4), (0x1CE2, 0x1CE8),
      (0x20D2, 0x20D3), (0x20D8, 0x20DA), (0x20E5, 0x20E6),
      (0x20EA, 0x20EB), (0x10A39, 0x10A39), (0x16AF0, 0x16AF4),
      (0x1BC9E, 0x1BC9E), (0x1D167, 0x1D169)]),
    (6, [(0x16FF0, 0x16FF1)]),
    (7, [
      (0x93C, 0x93C), (0x9BC, 0x9BC), (0xA3C, 0xA3C),
      (0xABC, 0xABC), (0xB3C, 0xB3C), (0xC3C, 0xC3C),
      (0xCBC, 0xCBC), (0x1037, 0x1037), (0x1B34, 0x1B34),
      (0x1BE6, 0x1BE6), (0x1C37, 0x1C37), (0xA9B3, 0xA9B3),
      (0x110BA, 0x110BA), (0x11173, 0x11173), (0x111CA, 0x111CA),
      (0x11236, 0x11236), (0x112E9, 0x112E9), (0x1133B, 0x1133C),
      (0x11446, 0x11446), (0x114C3, 0x114C3), (0x115C0, 0x115C0),
      (0x116B7, 0x116B7), (0x1183A, 0x1183A), (0x11943, 0x11943),
      (0x11D42, 0x11D42), (0x1E94A, 0x1E94A)]),
    (8, [(0x3099, 0x309A)]),
    (9, [
      (0x94D, 0x94D), (0x9CD, 0x9CD), (0xA4D, 0xA4D),
      (0xACD, 0xACD), (0xB4D, 0xB4D), (0xBCD, 0xBCD),
      (0xC4D, 0xC4D), (0xCCD, 0xCCD), (0xD3B, 0xD3C),
      (0xD4D, 0xD4D), (0xDCA, 0xDCA), (0xE3A, 0xE3A),
      (0xEBA, 0xEBA), (0xF84, 0xF84), (0x1039, 0x103A),
      (0x1714, 0x1715), (0x1734, 0x1734), (0x17D2, 0x17D2),
      (0x1A60, 0x1A60), (0x1B44, 0x1B44), (0x1BAA, 0x1BAB),
      (0x1BF2, 0x1BF3), (0x2D7F, 0x2D7F), (0xA806, 0xA806),
      (0xA82C, 0xA82C), (0xA8C4, 0xA8C4), (0xA953, 0xA953),
      (0xA9C0, 0xA9C0), (0xAAF6, 0xAAF6), (0xABED, 0xABED),
      (0x10A3F, 0x10A3F), (0x11046, 0x11046), (0x11070, 0x11070),
      (0x1107F, 0x1107F), (0x110B9, 0x110B9), (0x11133, 0x11134),
      (0x111C0, 0x111C0), (0x11235, 0x11235), (0x112EA, 0x112EA),
      (0x1134D, 0x1134D), (0x113CE, 0x113D0), (0x11442, 0x11442),
      (0x114C2, 0x114C2), (0x115BF, 0x115BF), (0x1163F, 0x1163F),
      (0x116B6, 0x116B6), (0x1172B, 0x1172B), (0x11839, 0x11839),
      (0x1193D, 0x1193E), (0x119E0, 0x119E0), (0x11A34, 0x11A34),
      (0x11A47, 0x11A47), (0x11A99, 0x11A99), (0x11C3F, 0x11C3F),
      (0x11D44, 0x11D45), (0x11D97, 0x11D97), (0x11F41, 0x11F42),
      (0x1612F, 0x1612F)]),
    (10, [(0x5B0, 0x5B0)]),
    (11, [(0x5B1, 0x5B1)]),
    (12, [(0x5B2, 0x5B2)]),
    (13, [(0x5B3, 0x5B3)]),
    (14, [(0x5B4, 0x5B4)]),
    (15, [(0x5B5, 0x5B5)]),
    (16, [(0x5B6, 0x5B6)]),
    (17, [(0x5B7, 0x5B7)]),
    (18, [(0x5B8, 0x5B8), (0x5C7, 0x5C7)]),
    (19, [(0x5B9, 0x5BA)]),
    (20, [(0x5BB, 0x5BB)]),
    (21, [(0x5BC, 0x5BC)]),
    (22, [(0x5BD, 0x5BD)]),
    (23, [(0x5BF, 0x5BF)]),
    (24, [(0x5C1, 0x5C1)]),
    (25, [(0x5C2, 0x5C2)]),
    (26, [(0xFB1E, 0xFB1E)]),
    (27, [(0x64B, 0x64B), (0x8F0, 0x8F0)]),
    (28, [(0x64C, 0x64C), (0x8F1, 0x8F1)]),
    (29, [(0x64D, 0x64D), (0x8F2, 0x8F2)]),
    (30, [(0x618, 0x618), (0x64E, 0x64E)]),
    (31, [(0x619, 0x619), (0x64F, 0x64F)]),
    (32, [(0x61A, 0x61A), (0x650, 0x650)]),
    (33, [(0x651, 0x651)]),
    (34, [(0x652, 0x652)]),
    (35, [(0x670, 0x670)]),
    (36, [(0x711, 0x711)]),
    (84, [(0xC55, 0xC55)]),
    (91, [(0xC56, 0xC56)]),
    (103, [(0xE38, 0xE39)]),
    (107, [(0xE48, 0xE4B)]),
    (118, [(0xEB8, 0xEB9)]),
    (122, [(0xEC8, 0xECB)]),
    (129, [(0xF71, 0xF71)]),
    (130, [(0xF72, 0xF72), (0xF7A, 0xF7D), (0xF80, 0xF80)]),
    (132, [(0xF74, 0xF74)]),
    (202, [(0x321, 0x322), (0x327, 0x328), (0x1DD0, 0x1DD0)]),
    (214, [(0x1DCE, 0x1DCE)]),
    (216, [
      (0x31B, 0x31B), (0xF39, 0xF39), (0x1D165, 0x1D166),
      (0x1D16E, 0x1D172)]),
    (218, [(0x1DFA, 0x1DFA), (0x302A, 0x302A)]),
    (220, [
      (0x316, 0x319), (0x31C, 0x320), (0x323, 0x326),
      (0x329, 0x333), (0x339, 0x33C), (0x347, 0x349),
      (0x34D, 0x34E), (0x353, 0x356), (0x359, 0x35A),
      (0x591, 0x591), (0x596, 0x596), (0x59B, 0x59B),
      (0x5A2, 0x5A7), (0x5AA, 0x5AA), (0x5C5, 0x5C5),
      (0x655, 0x656), (0x65C, 0x65C), (0x65F, 0x65F),
      (0x6E3, 0x6E3), (0x6EA, 0x6EA), (0x6ED, 0x6ED),
      (0x731, 0x731), (0x734, 0x734), (0x737, 0x739),
      (0x73B, 0x73C), (0x73E, 0x73E), (0x742, 0x742),
      (0x744, 0x744), (0x746, 0x746), (0x748, 0x748),
      (0x7F2, 0x7F2), (0x7FD, 0x7FD), (0x859, 0x85B),
      (0x899, 0x89B), (0x8CF, 0x8D3), (0x8E3, 0x8E3),
      (0x8E6, 0x8E6), (0x8E9, 0x8E9), (0x8ED, 0x8EF),
      (0x8F6, 0x8F6), (0x8F9, 0x8FA), (0x952, 0x952),
      (0xF18, 0xF19), (0xF35, 0xF35), (0xF37, 0xF37),
      (0xFC6, 0xFC6), (0x108D, 0x108D), (0x193B, 0x193B),
      (0x1A18, 0x1A18), (0x1A7F, 0x1A7F), (0x1AB5, 0x1ABA),
      (0x1ABD, 0x1ABD), (0x1ABF, 0x1AC0), (0x1AC3, 0x1AC4),
      (0x1ACA, 0x1ACA), (0x1ADD, 0x1ADD), (0x1AE6, 0x1AE6),
      (0x1B6C, 0x1B6C), (0x1CD5, 0x1CD9), (0x1CDC, 0x1CDF),
      (0x1CED, 0x1CED), (0x1DC2, 0x1DC2), (0x1DCA, 0x1DCA),
      (0x1DCF, 0x1DCF), (0x1DF9, 0x1DF9), (0x1DFD, 0x1DFD),
      (0x1DFF, 0x1DFF), (0x20E8, 0x20E8), (0x20EC, 0x20EF),
      (0xA92B, 0xA92D), (0xAAB4, 0xAAB4), (0xFE27, 0xFE2D),
      (0x101FD, 0x101FD), (0x102E0, 0x102E0), (0x10A0D, 0x10A0D),
      (0x10A3A, 0x10A3A), (0x10AE6, 0x10AE6), (0x10EFA, 0x10EFB),
      (0x10EFD, 0x10EFF), (0x10F46, 0x10F47), (0x10F4B, 0x10F4B),
      (0x10F4D, 0x10F50), (0x10F83, 0x10F83), (0x10F85, 0x10F85),
      (0x1D17B, 0x1D182), (0x1D18A, 0x1D18B), (0x1E4EE, 0x1E4EE),
      (0x1E5EF, 0x1E5EF), (0x1E8D0, 0x1E8D6)]),
    (222, [
      (0x59A, 0x59A), (0x5AD, 0x5AD), (0x1939, 0x1939),
      (0x302D, 0x302D)]),
    (224, [(0x302E, 0x302F)]),
    (226, [(0x1D16D, 0x1D16D)]),
    (228, [
      (0x5AE, 0x5AE), (0x18A9, 0x18A9), (0x1DF7, 0x1DF8),
      (0x302B, 0x302B)]),
    (230, [
      (0x300, 0x314), (0x33D, 0x343), (0x346, 0x346),
      (0x34A, 0x34C), (0x350, 0x352), (0x357, 0x357),
      (0x35B, 0x35B), (0x363, 0x36F), (0x483, 0x487),
      (0x592, 0x595), (0x597, 0x599), (0x59C, 0x5A1),
      (0x5A8, 0x5A9), (0x5AB, 0x5AC), (0x5AF, 0x5AF),
      (0x5C4, 0x5C4), (0x610, 0x617), (0x653, 0x654),
      (0x657, 0x65B), (0x65D, 0x65E), (0x6D6, 0x6DC),
      (0x6DF, 0x6E2), (0x6E4, 0x6E4), (0x6E7, 0x6E8),
      (0x6EB, 0x6EC), (0x730, 0x730), (0x732, 0x733),
      (0x735, 0x736), (0x73A, 0x73A), (0x73D, 0x73D),
      (0x73F, 0x741), (0x743, 0x743), (0x745, 0x745),
      (0x747, 0x747), (0x749, 0x74A), (0x7EB, 0x7F1),
      (0x7F3, 0x7F3), (0x816, 0x819), (0x81B, 0x823),
      (0x825, 0x827), (0x829, 0x82D), (0x897, 0x898),
      (0x89C, 0x89F), (0x8CA, 0x8CE), (0x8D4, 0x8E1),
      (0x8E4, 0x8E5), (0x8E7, 0x8E8), (0x8EA, 0x8EC),
      (0x8F3, 0x8F5), (0x8F7, 0x8F8), (0x8FB, 0x8FF),
      (0x951, 0x951), (0x953, 0x954), (0x9FE, 0x9FE),
      (0xF82, 0xF83), (0xF86, 0xF87), (0x135D, 0x135F),
      (0x17DD, 0x17DD), (0x193A, 0x193A), (0x1A17, 0x1A17),
      (0x1A75, 0x1A7C), (0x1AB0, 0x1AB4), (0x1ABB, 0x1ABC),
      (0x1AC1, 0x1AC2), (0x1AC5, 0x1AC9), (0x1ACB, 0x1ADC),
      (0x1AE0, 0x1AE5), (0x1AE7, 0x1AEA), (0x1B6B, 0x1B6B),
      (0x1B6D, 0x1B73), (0x1CD0, 0x1CD2), (0x1CDA, 0x1CDB),
      (0x1CE0, 0x1CE0), (0x1CF4, 0x1CF4), (0x1CF8, 0x1CF9),
      (0x1DC0, 0x1DC1), (0x1DC3, 0x1DC9), (0x1DCB, 0x1DCC),
      (0x1DD1, 0x1DF5), (0x1DFB, 0x1DFB), (0x1DFE, 0x1DFE),
      (0x20D0, 0x20D1), (0x20D4, 0x20D7), (0x20DB, 0x20DC),
      (0x20E1, 0x20E1), (0x20E7, 0x20E7), (0x20E9, 0x20E9),
      (0x20F0, 0x20F0), (0x2CEF, 0x2CF1), (0x2DE0, 0x2DFF),
      (0xA66F, 0xA66F), (0xA674, 0xA67D), (0xA69E, 0xA69F),
      (0xA6F0, 0xA6F1), (0xA8E0, 0xA8F1), (0xAAB0, 0xAAB0),
      (0xAAB2, 0xAAB3), (0xAAB7, 0xAAB8), (0xAABE, 0xAABF),
      (0xAAC1, 0xAAC1), (0xFE20, 0xFE26), (0xFE2E, 0xFE2F),
      (0x10376, 0x1037A), (0x10A0F, 0x10A0F), (0x10A38, 0x10A38),
      (0x10AE5, 0x10AE5), (0x10D24, 0x10D27), (0x10D69, 0x10D6D),
      (0x10EAB, 0x10EAC), (0x10F48, 0x10F4A), (0x10F4C, 0x10F4C),
      (0x10F82, 0x10F82), (0x10F84, 0x10F84), (0x11100, 0x11102),
      (0x11366, 0x1136C), (0x11370, 0x11374), (0x1145E, 0x1145E),
      (0x16B30, 0x16B36), (0x1D185, 0x1D189), (0x1D1AA, 0x1D1AD),
      (0x1D242, 0x1D244), (0x1E000, 0x1E006), (0x1E008, 0x1E018),
      (0x1E01B, 0x1E021), (0x1E023, 0x1E024), (0x1E026, 0x1E02A),
      (0x1E08F, 0x1E08F), (0x1E130, 0x1E136), (0x1E2AE, 0x1E2AE),
      (0x1E2EC, 0x1E2EF), (0x1E4EF, 0x1E4EF), (0x1E5EE, 0x1E5EE),
      (0x1E6E3, 0x1E6E3), (0x1E6E6, 0x1E6E6), (0x1E6EE, 0x1E6EF),
      (0x1E6F5, 0x1E6F5), (0x1E944, 0x1E949)]),
    (232, [
      (0x315, 0x315), (0x31A, 0x31A), (0x358, 0x358),
      (0x1DF6, 0x1DF6), (0x302C, 0x302C), (0x1E4EC, 0x1E4ED)]),
    (233, [
      (0x35C, 0x35C), (0x35F, 0x35F), (0x362, 0x362),
      (0x1DFC, 0x1DFC)]),
    (234, [
      (0x35D, 0x35E), (0x360, 0x361), (0x1AEB, 0x1AEB),
      (0x1DCD, 0x1DCD)]),
    (240, [(0x345, 0x345)])
  ]

/-
  The combining class of a character: zero for one that
  starts a cluster.
-/
def combiningClass
    (c : Char) : Nat :=
  let n := c.toNat
  if n < 0x300 then
    0
  else
    match combiningClasses.find? (inRanges ·.2 n) with
    | some (value, _) => value
    | none => 0

end Text

------------------------------------------------------------
-- Pairs
------------------------------------------------------------

namespace Text

/-
  The second characters of composable pairs. Behind each,
  every first character is followed by what it composes to.
-/
def pairStrips : List (Char × String) :=
  [
    ('\u0300',
      "AÀEÈIÌNǸOÒUÙWẀYỲaàeèiìnǹoòuùwẁyỳ\u00a8\u1fedÂẦÊỀÔỒ" ++
      "ÜǛâầêềôồüǜĂẰăằĒḔēḕŌṐōṑƠỜơờƯỪưừΑᾺΕῈΗῊΙῚΟῸΥῪΩῺαὰεὲηὴ" ++
      "ιὶοὸυὺωὼϊῒϋῢЕЀИЍеѐиѝἀἂἁἃἈἊἉἋἐἒἑἓἘἚἙἛἠἢἡἣἨἪἩἫἰἲἱἳἸἺ" ++
      "ἹἻὀὂὁὃὈὊὉὋὐὒὑὓὙὛὠὢὡὣὨὪὩὫ\u1fbf\u1fcd\u1ffe\u1fdd"),
    ('\u0301',
      "AÁCĆEÉGǴIÍKḰLĹMḾNŃOÓPṔRŔSŚUÚWẂYÝZŹaácćeégǵiíkḱlĺmḿ" ++
      "nńoópṕrŕsśuúwẃyýzź\u00a8\u0385ÂẤÅǺÆǼÇḈÊẾÏḮÔỐÕṌØǾÜǗ" ++
      "âấåǻæǽçḉêếïḯôốõṍøǿüǘĂẮăắĒḖēḗŌṒōṓŨṸũṹƠỚơớƯỨưứΑΆΕΈΗΉ" ++
      "ΙΊΟΌΥΎΩΏαάεέηήιίοόυύωώϊΐϋΰϒϓГЃКЌгѓкќἀἄἁἅἈἌἉἍἐἔἑἕἘἜ" ++
      "ἙἝἠἤἡἥἨἬἩἭἰἴἱἵἸἼἹἽὀὄὁὅὈὌὉὍὐὔὑὕὙὝὠὤὡὥὨὬὩὭ" ++
      "\u1fbf\u1fce\u1ffe\u1fde"),
    ('\u0302',
      "AÂCĈEÊGĜHĤIÎJĴOÔSŜUÛWŴYŶZẐaâcĉeêgĝhĥiîjĵoôsŝuûwŵyŷ" ++
      "zẑẠẬạậẸỆẹệỌỘọộ"),
    ('\u0303',
      "AÃEẼIĨNÑOÕUŨVṼYỸaãeẽiĩnñoõuũvṽyỹÂẪÊỄÔỖâẫêễôỗĂẴăẵƠỠ" ++
      "ơỡƯỮưữ"),
    ('\u0304',
      "AĀEĒGḠIĪOŌUŪYȲaāeēgḡiīoōuūyȳÄǞÆǢÕȬÖȪÜǕäǟæǣõȭöȫüǖǪǬ" ++
      "ǫǭȦǠȧǡȮȰȯȱΑᾹΙῙΥῩαᾱιῑυῡИӢУӮиӣуӯḶḸḷḹṚṜṛṝ"),
    ('\u0306',
      "AĂEĔGĞIĬOŎUŬaăeĕgğiĭoŏuŭȨḜȩḝΑᾸΙῘΥῨαᾰιῐυῠАӐЕӖЖӁИЙУЎ" ++
      "аӑеӗжӂийуўẠẶạặ"),
    ('\u0307',
      "AȦBḂCĊDḊEĖFḞGĠHḢIİMṀNṄOȮPṖRṘSṠTṪWẆXẊYẎZŻaȧbḃcċdḋeė" ++
      "fḟgġhḣmṁnṅoȯpṗrṙsṡtṫwẇxẋyẏzżŚṤśṥŠṦšṧſẛṢṨṣṩ𐗒𐗉𐗚𐗤"),
    ('\u0308',
      "AÄEËHḦIÏOÖUÜWẄXẌYŸaäeëhḧiïoötẗuüwẅxẍyÿÕṎõṏŪṺūṻΙΪΥΫ" ++
      "ιϊυϋϒϔІЇАӒЕЁЖӜЗӞИӤОӦУӰЧӴЫӸЭӬаӓеёжӝзӟиӥоӧуӱчӵыӹэӭії" ++
      "ӘӚәӛӨӪөӫ"),
    ('\u0309',
      "AẢEẺIỈOỎUỦYỶaảeẻiỉoỏuủyỷÂẨÊỂÔỔâẩêểôổĂẲăẳƠỞơởƯỬưử"),
    ('\u030a', "AÅUŮaåuůwẘyẙ"),
    ('\u030b', "OŐUŰoőuűУӲуӳ"),
    ('\u030c',
      "AǍCČDĎEĚGǦHȞIǏKǨLĽNŇOǑRŘSŠTŤUǓZŽaǎcčdďeěgǧhȟiǐjǰkǩ" ++
      "lľnňoǒrřsštťuǔzžÜǙüǚƷǮʒǯ"),
    ('\u030f', "AȀEȄIȈOȌRȐUȔaȁeȅiȉoȍrȑuȕѴѶѵѷ"),
    ('\u0311', "AȂEȆIȊOȎRȒUȖaȃeȇiȋoȏrȓuȗ"),
    ('\u0313', "ΑἈΕἘΗἨΙἸΟὈΩὨαἀεἐηἠιἰοὀρῤυὐωὠ"),
    ('\u0314', "ΑἉΕἙΗἩΙἹΟὉΡῬΥὙΩὩαἁεἑηἡιἱοὁρῥυὑωὡ"),
    ('\u031b', "OƠUƯoơuư"),
    ('\u0323',
      "AẠBḄDḌEẸHḤIỊKḲLḶMṂNṆOỌRṚSṢTṬUỤVṾWẈYỴZẒaạbḅdḍeẹhḥiị" ++
      "kḳlḷmṃnṇoọrṛsṣtṭuụvṿwẉyỵzẓƠỢơợƯỰưự"),
    ('\u0324', "UṲuṳ"),
    ('\u0325', "AḀaḁ"),
    ('\u0326', "SȘTȚsștț"),
    ('\u0327', "CÇDḐEȨGĢHḨKĶLĻNŅRŖSŞTŢcçdḑeȩgģhḩkķlļnņrŗsştţ"),
    ('\u0328', "AĄEĘIĮOǪUŲaąeęiįoǫuų"),
    ('\u032d', "DḒEḘLḼNṊTṰUṶdḓeḙlḽnṋtṱuṷ"),
    ('\u032e', "HḪhḫ"),
    ('\u0330', "EḚIḬUṴeḛiḭuṵ"),
    ('\u0331', "BḆDḎKḴLḺNṈRṞTṮZẔbḇdḏhẖkḵlḻnṉrṟtṯzẕ"),
    ('\u0338',
      "<≮=≠>≯←↚→↛↔↮⇐⇍⇒⇏⇔⇎∃∄∈∉∋∌∣∤∥∦∼≁≃≄≅≇≈≉≍≭≡≢≤≰≥≱≲≴≳≵≶≸" ++
      "≷≹≺⊀≻⊁≼⋠≽⋡⊂⊄⊃⊅⊆⊈⊇⊉⊑⋢⊒⋣⊢⊬⊨⊭⊩⊮⊫⊯⊲⋪⊳⋫⊴⋬⊵⋭"),
    ('\u0342',
      "\u00a8\u1fc1αᾶηῆιῖυῦωῶϊῗϋῧἀἆἁἇἈἎἉἏἠἦἡἧἨἮἩἯἰἶἱἷἸἾἹἿ" ++
      "ὐὖὑὗὙὟὠὦὡὧὨὮὩὯ\u1fbf\u1fcf\u1ffe\u1fdf"),
    ('\u0345',
      "ΑᾼΗῌΩῼάᾴήῄαᾳηῃωῳώῴἀᾀἁᾁἂᾂἃᾃἄᾄἅᾅἆᾆἇᾇἈᾈἉᾉἊᾊἋᾋἌᾌἍᾍἎᾎἏᾏ" ++
      "ἠᾐἡᾑἢᾒἣᾓἤᾔἥᾕἦᾖἧᾗἨᾘἩᾙἪᾚἫᾛἬᾜἭᾝἮᾞἯᾟὠᾠὡᾡὢᾢὣᾣὤᾤὥᾥὦᾦὧᾧὨᾨ" ++
      "ὩᾩὪᾪὫᾫὬᾬὭᾭὮᾮὯᾯὰᾲὴῂὼῲᾶᾷῆῇῶῷ"),
    ('\u0653', "اآ"),
    ('\u0654', "اأوؤيئہۂےۓەۀ"),
    ('\u0655', "اإ"),
    ('\u093c', "नऩरऱळऴ"),
    ('\u09be', "\u09c7\u09cb"),
    ('\u09d7', "\u09c7\u09cc"),
    ('\u0b3e', "\u0b47\u0b4b"),
    ('\u0b56', "\u0b47\u0b48"),
    ('\u0b57', "\u0b47\u0b4c"),
    ('\u0bbe', "\u0bc6\u0bca\u0bc7\u0bcb"),
    ('\u0bd7', "ஒஔ\u0bc6\u0bcc"),
    ('\u0c56', "\u0c46\u0c48"),
    ('\u0cc2', "\u0cc6\u0cca"),
    ('\u0cd5', "\u0cbf\u0cc0\u0cc6\u0cc7\u0cca\u0ccb"),
    ('\u0cd6', "\u0cc6\u0cc8"),
    ('\u0d3e', "\u0d46\u0d4a\u0d47\u0d4b"),
    ('\u0d57', "\u0d46\u0d4c"),
    ('\u0dca', "\u0dd9\u0dda\u0ddc\u0ddd"),
    ('\u0dcf', "\u0dd9\u0ddc"),
    ('\u0ddf', "\u0dd9\u0dde"),
    ('\u102e', "ဥဦ"),
    ('\u1b35',
      "ᬅᬆᬇᬈᬉᬊᬋᬌᬍᬎᬑᬒ\u1b3a\u1b3b\u1b3c\u1b3d\u1b3e\u1b40" ++
      "\u1b3f\u1b41\u1b42\u1b43"),
    ('\u3099',
      "うゔかがきぎくぐけげこごさざしじすずせぜそぞただちぢつづてでとどはばひびふぶへべほぼ" ++
      "\u309d\u309eウヴカガキギクグケゲコゴサザシジスズセゼソゾタダチヂツヅテデトドハバヒビフブ" ++
      "ヘベホボワヷヰヸヱヹヲヺ\u30fd\u30fe"),
    ('\u309a', "はぱひぴふぷへぺほぽハパヒピフプヘペホポ"),
    ('𑂺', "𑂙𑂚𑂛𑂜𑂥𑂫"),
    ('𑄧', "𑄱𑄮𑄲𑄯"),
    ('𑌾', "𑍇𑍋"),
    ('𑍗', "𑍇𑍌"),
    ('𑎸', "𑏅𑎸"),
    ('𑎻', "𑎄𑎅"),
    ('𑏂', "𑎋𑎎𑏅𑏂"),
    ('𑏉', "𑎂𑎃𑎐𑎑𑏅𑏉"),
    ('𑒰', "𑒹𑒼"),
    ('𑒺', "𑒹𑒻"),
    ('𑒽', "𑒹𑒾"),
    ('𑖯', "𑖸𑖺𑖹𑖻"),
    ('𑤰', "𑤵𑤸"),
    ('𖄞', "𖄡𖄞"),
    ('𖄟', "𖄦𖄡𖄦𖄢𖄧𖄩𖄤"),
    ('𖄠', "𖄨𖄡𖄨"),
    ('𖄩', "𖄡𖄩"),
    ('𖵧', "𖵣𖵪𖵨𖵩𖵪")
  ]

/- Take a strip apart into pairs and what they compose to. -/
def unstrip
    (second : Char) :
    List Char → List (Char × Char × Char)
  | first :: whole :: rest =>
      (first, second, whole) :: unstrip second rest
  | _ => []

/- All composable pairs, with what they compose to. -/
def pairs : List (Char × Char × Char) :=
  pairStrips.flatMap fun strip =>
    unstrip strip.1 strip.2.toList

/- The character that a pair composes to, by the table. -/
def listedPair?
    (first second : Char) : Option Char :=
  match List.lookup second pairStrips with
  | none => none
  | some strip =>
      ((unstrip second strip.toList).find? (·.1 == first)).map
        (·.2.2)

end Text

------------------------------------------------------------
-- Syllables
------------------------------------------------------------

namespace Text

/- The code point of the first syllable. -/
def syllableBase : Nat := 0xAC00

/- The code point of the first leading consonant. -/
def leadBase : Nat := 0x1100

/- The code point of the first vowel. -/
def vowelBase : Nat := 0x1161

/- The code point before the first trailing consonant. -/
def trailBase : Nat := 0x11A7

/- The number of leading consonants. -/
def leadCount : Nat := 19

/- The number of vowels. -/
def vowelCount : Nat := 21

/- The number of trailing consonants, and none. -/
def trailCount : Nat := 28

/- The number of syllables. -/
def syllableCount : Nat :=
  leadCount * vowelCount * trailCount

/- The number of a syllable. -/
def syllable?
    (c : Char) : Option Nat :=
  let index := c.toNat - syllableBase
  if syllableBase ≤ c.toNat ∧ index < syllableCount then
    some index
  else
    none

/- The syllable that two signs compose to. -/
def syllablePair?
    (first second : Char) : Option Char :=
  let lead := first.toNat - leadBase
  let vowel := second.toNat - vowelBase
  let trail := second.toNat - trailBase
  if leadBase ≤ first.toNat ∧ lead < leadCount
      ∧ vowelBase ≤ second.toNat ∧ vowel < vowelCount then
    some (Char.ofNat
      (syllableBase
        + (lead * vowelCount + vowel) * trailCount))
  else
    match syllable? first with
    | some index =>
        if index % trailCount = 0 ∧ trailBase < second.toNat
            ∧ trail < trailCount then
          some (Char.ofNat (first.toNat + trail))
        else
          none
    | none => none

/- The signs that a syllable is composed of. -/
def syllableSigns
    (index : Nat) : List Char :=
  let lead := index / (vowelCount * trailCount)
  let vowel := index / trailCount % vowelCount
  let trail := index % trailCount
  let signs :=
    [Char.ofNat (leadBase + lead), Char.ofNat (vowelBase + vowel)]
  if trail = 0 then
    signs
  else
    signs ++ [Char.ofNat (trailBase + trail)]

end Text

------------------------------------------------------------
-- Decomposition
------------------------------------------------------------

namespace Text

/- The greatest number of marks within one character. -/
def greatestDepth : Nat :=
  4

/- The pair that a character is composed of, by the table. -/
def parts?
    (c : Char) : Option (Char × Char) :=
  (pairs.find? (·.2.2 == c)).map fun pair => (pair.1, pair.2.1)

/- Take a character apart as far as it goes. -/
def takenApart : (depth : Nat) → Char → List Char
  | 0, c => [c]
  | depth + 1, c =>
      (syllable? c).elim
        ((parts? c).elim [c] fun (first, second) =>
          takenApart depth first ++ [second])
        syllableSigns

/- Insert a mark behind those of its class or of lower ones. -/
def insertMark
    (mark : Char) : List Char → List Char
  | [] => [mark]
  | c :: rest =>
      if combiningClass c ≤ combiningClass mark then
        c :: insertMark mark rest
      else
        mark :: c :: rest

/-
  Put the marks of each cluster in order. The marks that
  were just passed are kept in order.
-/
def orderMarks : (marks : List Char) → List Char → List Char
  | marks, [] => marks
  | marks, c :: rest =>
      if combiningClass c = 0 then
        marks ++ c :: orderMarks [] rest
      else
        orderMarks (insertMark c marks) rest

/- A text taken apart, with its marks in order. -/
def decomposed
    (cs : List Char) : List Char :=
  orderMarks [] (cs.flatMap (takenApart greatestDepth))

end Text

------------------------------------------------------------
-- Composition
------------------------------------------------------------

namespace Text

/- The character that a pair composes to. -/
def pair?
    (first second : Char) : Option Char :=
  (syllablePair? first second).orElse fun _ =>
    listedPair? first second

/-
  What is composed so far: the start of the last cluster and
  its marks, the last one first.
-/
structure Cluster where
  start : Char
  marks : List Char

/- The characters of a cluster. -/
def Cluster.chars
    (cluster : Cluster) : List Char :=
  cluster.start :: cluster.marks.reverse

/-
  A character is kept from the start of a cluster by a mark
  that is not of a lower class.
-/
def Cluster.blocks
    (cluster : Cluster)
    (c : Char) : Bool :=
  cluster.marks.head?.any fun mark =>
    combiningClass c ≤ combiningClass mark

/- Compose what follows the start of a cluster. -/
def composeFrom : Cluster → List Char → List Char
  | cluster, [] => cluster.chars
  | cluster, c :: rest =>
      let whole :=
        if cluster.blocks c then
          none
        else
          pair? cluster.start c
      match whole with
      | some whole => composeFrom ⟨whole, cluster.marks⟩ rest
      | none =>
          if combiningClass c = 0 then
            cluster.chars ++ composeFrom ⟨c, []⟩ rest
          else
            composeFrom ⟨cluster.start, c :: cluster.marks⟩ rest

/- Compose a text that is taken apart. -/
def compose : List Char → List Char
  | [] => []
  | c :: rest =>
      if combiningClass c = 0 then
        composeFrom ⟨c, []⟩ rest
      else
        c :: compose rest

/-
  The composed spelling of a text; one of ASCII characters
  alone is composed as it stands.
-/
def composed
    (cs : List Char) : List Char :=
  if cs.all (·.toNat < 0x80) then
    cs
  else
    compose (decomposed cs)

end Text

end LostProperty
