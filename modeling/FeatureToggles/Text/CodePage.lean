/-!
# Code pages

Encodings of one byte a character.  A code page is given by the spellings of its name and by the
characters of the bytes in a row: of all bytes, or of those from `0x80` on, in front of which ASCII
stands.  A noncharacter stands where a byte has no character.

Main statement: in a page that gives the upper half alone the lower half is ASCII
(`character?_of_lower`).
-/

namespace FeatureToggles.Text

/-- An encoding of one byte a character. -/
structure CodePage where
  /-- The plain spellings of its name. -/
  names : List String
  /-- The characters of the bytes, in a row. -/
  rows : List String
deriving DecidableEq

namespace CodePage

/-- What stands where a byte has no character. -/
def absent : Char := '\uFFFE'

/-- The characters of a page. -/
def characters (page : CodePage) : List Char := page.rows.flatMap String.toList

/-- The number of bytes of a half. -/
def half : Nat := 128

/-- The character of a byte, if it has one. -/
def character? (page : CodePage) (b : UInt8) : Option Char :=
  let cs := page.characters
  let found := if cs.length ≤ half then
      if b.toNat < half then some (Char.ofNat b.toNat) else cs[b.toNat - half]?
    else cs[b.toNat]?
  found.filter (· != absent)

theorem character?_of_lower {page : CodePage} {b : UInt8} (hpage : page.characters.length ≤ half)
    (hb : b.toNat < half) (hne : Char.ofNat b.toNat ≠ absent) :
    page.character? b = some (Char.ofNat b.toNat) := by
  simp [character?, hpage, hb, hne]

/-! ## The pages -/

/-- The pages from `cp1250` to `cp1258`. -/
def ansiPages : List CodePage :=
  [⟨["cp1250", "1250", "windows_1250"],
    ["€\uFFFE‚\uFFFE„…†‡\uFFFE‰Š‹ŚŤŽŹ\uFFFE‘’“”•–—\uFFFE™š›śťžź",
      "\xa0\u02c7˘Ł¤Ą¦§¨©Ş«¬\xad®Ż°±˛ł´µ¶·¸ąş»Ľ˝ľż",
      "ŔÁÂĂÄĹĆÇČÉĘËĚÍÎĎĐŃŇÓÔŐÖ×ŘŮÚŰÜÝŢß",
      "ŕáâăäĺćçčéęëěíîďđńňóôőö÷řůúűüýţ˙"]⟩,
  ⟨["cp1251", "1251", "windows_1251"],
    ["ЂЃ‚ѓ„…†‡€‰Љ‹ЊЌЋЏђ‘’“”•–—\uFFFE™љ›њќћџ",
      "\xa0ЎўЈ¤Ґ¦§Ё©Є«¬\xad®Ї°±Ііґµ¶·ё№є»јЅѕї",
      "АБВГДЕЖЗИЙКЛМНОПРСТУФХЦЧШЩЪЫЬЭЮЯ",
      "абвгдежзийклмнопрстуфхцчшщъыьэюя"]⟩,
  ⟨["cp1252", "1252", "windows_1252"],
    ["€\uFFFE‚ƒ„…†‡\u02c6‰Š‹Œ\uFFFEŽ\uFFFE\uFFFE‘’“”•–—˜™š›œ\uFFFEžŸ",
      "\xa0¡¢£¤¥¦§¨©ª«¬\xad®¯°±²³´µ¶·¸¹º»¼½¾¿",
      "ÀÁÂÃÄÅÆÇÈÉÊËÌÍÎÏÐÑÒÓÔÕÖ×ØÙÚÛÜÝÞß",
      "àáâãäåæçèéêëìíîïðñòóôõö÷øùúûüýþÿ"]⟩,
  ⟨["cp1253", "1253", "windows_1253"],
    ["€\uFFFE‚ƒ„…†‡\uFFFE‰\uFFFE‹\uFFFE\uFFFE\uFFFE\uFFFE",
      "\uFFFE‘’“”•–—\uFFFE™\uFFFE›\uFFFE\uFFFE\uFFFE\uFFFE",
      "\xa0΅Ά£¤¥¦§¨©\uFFFE«¬\xad®―°±²³΄µ¶·ΈΉΊ»Ό½ΎΏ",
      "ΐΑΒΓΔΕΖΗΘΙΚΛΜΝΞΟΠΡ\uFFFEΣΤΥΦΧΨΩΪΫάέήί",
      "ΰαβγδεζηθικλμνξοπρςστυφχψωϊϋόύώ\uFFFE"]⟩,
  ⟨["cp1254", "1254", "windows_1254"],
    ["€\uFFFE‚ƒ„…†‡\u02c6‰Š‹Œ\uFFFE\uFFFE\uFFFE\uFFFE‘’“”•–—˜™š›œ\uFFFE\uFFFEŸ",
      "\xa0¡¢£¤¥¦§¨©ª«¬\xad®¯°±²³´µ¶·¸¹º»¼½¾¿",
      "ÀÁÂÃÄÅÆÇÈÉÊËÌÍÎÏĞÑÒÓÔÕÖ×ØÙÚÛÜİŞß",
      "àáâãäåæçèéêëìíîïğñòóôõö÷øùúûüışÿ"]⟩,
  ⟨["cp1255", "1255", "windows_1255"],
    ["€\uFFFE‚ƒ„…†‡\u02c6‰\uFFFE‹\uFFFE\uFFFE\uFFFE\uFFFE",
      "\uFFFE‘’“”•–—˜™\uFFFE›\uFFFE\uFFFE\uFFFE\uFFFE",
      "\xa0¡¢£₪¥¦§¨©×«¬\xad®¯°±²³´µ¶·¸¹÷»¼½¾¿",
      "\u05b0\u05b1\u05b2\u05b3\u05b4\u05b5\u05b6\u05b7",
      "\u05b8\u05b9\uFFFE\u05bb\u05bc\u05bd\u05be\u05bf",
      "\u05c0\u05c1\u05c2\u05c3\u05f0\u05f1\u05f2\u05f3",
      "\u05f4\uFFFE\uFFFE\uFFFE\uFFFE\uFFFE\uFFFE\uFFFE",
      "\u05d0\u05d1\u05d2\u05d3\u05d4\u05d5\u05d6\u05d7",
      "\u05d8\u05d9\u05da\u05db\u05dc\u05dd\u05de\u05df",
      "\u05e0\u05e1\u05e2\u05e3\u05e4\u05e5\u05e6\u05e7",
      "\u05e8\u05e9\u05ea\uFFFE\uFFFE\u200e\u200f\uFFFE"]⟩,
  ⟨["cp1256", "1256", "windows_1256"],
    ["€\u067e‚ƒ„…†‡\u02c6‰\u0679‹Œ\u0686\u0698\u0688",
      "\u06af‘’“”•–—\u06a9™\u0691›œ\u200c\u200d\u06ba",
      "\xa0،¢£¤¥¦§¨©\u06be«¬\xad®¯°±²³´µ¶·¸¹\u061b»¼½¾\u061f",
      "\u06c1\u0621\u0622\u0623\u0624\u0625\u0626\u0627",
      "\u0628\u0629\u062a\u062b\u062c\u062d\u062e\u062f",
      "\u0630\u0631\u0632\u0633\u0634\u0635\u0636×",
      "\u0637\u0638\u0639\u063a\u0640\u0641\u0642\u0643",
      "à\u0644â\u0645\u0646\u0647\u0648çèéêë\u0649\u064aîï",
      "\u064b\u064c\u064d\u064eô\u064f\u0650÷\u0651ù\u0652ûü\u200e\u200f\u06d2"]⟩,
  ⟨["cp1257", "1257", "windows_1257"],
    ["€\uFFFE‚\uFFFE„…†‡\uFFFE‰\uFFFE‹\uFFFE¨\u02c7¸\uFFFE‘’“”•–—\uFFFE™\uFFFE›\uFFFE¯˛\uFFFE",
      "\xa0\uFFFE¢£¤\uFFFE¦§Ø©Ŗ«¬\xad®Æ°±²³´µ¶·ø¹ŗ»¼½¾æ",
      "ĄĮĀĆÄÅĘĒČÉŹĖĢĶĪĻŠŃŅÓŌÕÖ×ŲŁŚŪÜŻŽß",
      "ąįāćäåęēčéźėģķīļšńņóōõö÷ųłśūüżž˙"]⟩,
  ⟨["cp1258", "1258", "windows_1258"],
    ["€\uFFFE‚ƒ„…†‡\u02c6‰\uFFFE‹Œ\uFFFE\uFFFE\uFFFE\uFFFE‘’“”•–—˜™\uFFFE›œ\uFFFE\uFFFEŸ",
      "\xa0¡¢£¤¥¦§¨©ª«¬\xad®¯°±²³´µ¶·¸¹º»¼½¾¿",
      "ÀÁÂĂÄÅÆÇÈÉÊË\u0300ÍÎÏĐÑ\u0309ÓÔƠÖ×ØÙÚÛÜƯ\u0303ß",
      "àáâăäåæçèéêë\u0301íîïđñ\u0323óôơö÷øùúûüư₫ÿ"]⟩]

/-- The pages of the family ISO 8859. -/
def isoPages : List CodePage :=
  [⟨["iso8859_1"],
    ["\x80\x81\x82\x83\x84\x85\x86\x87\x88\x89\x8a\x8b\x8c\x8d\x8e\x8f",
      "\x90\x91\x92\x93\x94\x95\x96\x97\x98\x99\x9a\x9b\x9c\x9d\x9e\x9f",
      "\xa0¡¢£¤¥¦§¨©ª«¬\xad®¯°±²³´µ¶·¸¹º»¼½¾¿",
      "ÀÁÂÃÄÅÆÇÈÉÊËÌÍÎÏÐÑÒÓÔÕÖ×ØÙÚÛÜÝÞß",
      "àáâãäåæçèéêëìíîïðñòóôõö÷øùúûüýþÿ"]⟩,
  ⟨["iso8859_10", "csisolatin6", "iso_8859_10", "iso_8859_10_1992", "iso_ir_157", "l6",
      "latin6"],
    ["\x80\x81\x82\x83\x84\x85\x86\x87\x88\x89\x8a\x8b\x8c\x8d\x8e\x8f",
      "\x90\x91\x92\x93\x94\x95\x96\x97\x98\x99\x9a\x9b\x9c\x9d\x9e\x9f",
      "\xa0ĄĒĢĪĨĶ§ĻĐŠŦŽ\xadŪŊ°ąēģīĩķ·ļđšŧž―ūŋ",
      "ĀÁÂÃÄÅÆĮČÉĘËĖÍÎÏÐŅŌÓÔÕÖŨØŲÚÛÜÝÞß",
      "āáâãäåæįčéęëėíîïðņōóôõöũøųúûüýþĸ"]⟩,
  ⟨["iso8859_11", "iso_8859_11", "iso_8859_11_2001", "thai"],
    ["\x80\x81\x82\x83\x84\x85\x86\x87\x88\x89\x8a\x8b\x8c\x8d\x8e\x8f",
      "\x90\x91\x92\x93\x94\x95\x96\x97\x98\x99\x9a\x9b\x9c\x9d\x9e\x9f",
      "\xa0กขฃคฅฆงจฉชซฌญฎฏฐฑฒณดตถทธนบปผฝพฟ",
      "ภมยรฤลฦวศษสหฬอฮฯ",
      "ะ\u0e31าำ\u0e34\u0e35\u0e36\u0e37\u0e38\u0e39\u0e3a\uFFFE\uFFFE\uFFFE\uFFFE฿",
      "เแโใไๅ\u0e46\u0e47\u0e48\u0e49\u0e4a\u0e4b\u0e4c\u0e4d\u0e4e๏",
      "๐๑๒๓๔๕๖๗๘๙๚๛\uFFFE\uFFFE\uFFFE\uFFFE"]⟩,
  ⟨["iso8859_13", "iso_8859_13", "l7", "latin7"],
    ["\x80\x81\x82\x83\x84\x85\x86\x87\x88\x89\x8a\x8b\x8c\x8d\x8e\x8f",
      "\x90\x91\x92\x93\x94\x95\x96\x97\x98\x99\x9a\x9b\x9c\x9d\x9e\x9f",
      "\xa0”¢£¤„¦§Ø©Ŗ«¬\xad®Æ°±²³“µ¶·ø¹ŗ»¼½¾æ",
      "ĄĮĀĆÄÅĘĒČÉŹĖĢĶĪĻŠŃŅÓŌÕÖ×ŲŁŚŪÜŻŽß",
      "ąįāćäåęēčéźėģķīļšńņóōõö÷ųłśūüżž’"]⟩,
  ⟨["iso8859_14", "iso_8859_14", "iso_8859_14_1998", "iso_celtic", "iso_ir_199", "l8",
      "latin8"],
    ["\x80\x81\x82\x83\x84\x85\x86\x87\x88\x89\x8a\x8b\x8c\x8d\x8e\x8f",
      "\x90\x91\x92\x93\x94\x95\x96\x97\x98\x99\x9a\x9b\x9c\x9d\x9e\x9f",
      "\xa0Ḃḃ£ĊċḊ§Ẁ©ẂḋỲ\xad®ŸḞḟĠġṀṁ¶ṖẁṗẃṠỳẄẅṡ",
      "ÀÁÂÃÄÅÆÇÈÉÊËÌÍÎÏŴÑÒÓÔÕÖṪØÙÚÛÜÝŶß",
      "àáâãäåæçèéêëìíîïŵñòóôõöṫøùúûüýŷÿ"]⟩,
  ⟨["iso8859_15", "iso_8859_15", "l9", "latin9"],
    ["\x80\x81\x82\x83\x84\x85\x86\x87\x88\x89\x8a\x8b\x8c\x8d\x8e\x8f",
      "\x90\x91\x92\x93\x94\x95\x96\x97\x98\x99\x9a\x9b\x9c\x9d\x9e\x9f",
      "\xa0¡¢£€¥Š§š©ª«¬\xad®¯°±²³Žµ¶·ž¹º»ŒœŸ¿",
      "ÀÁÂÃÄÅÆÇÈÉÊËÌÍÎÏÐÑÒÓÔÕÖ×ØÙÚÛÜÝÞß",
      "àáâãäåæçèéêëìíîïðñòóôõö÷øùúûüýþÿ"]⟩,
  ⟨["iso8859_16", "iso_8859_16", "iso_8859_16_2001", "iso_ir_226", "l10", "latin10"],
    ["\x80\x81\x82\x83\x84\x85\x86\x87\x88\x89\x8a\x8b\x8c\x8d\x8e\x8f",
      "\x90\x91\x92\x93\x94\x95\x96\x97\x98\x99\x9a\x9b\x9c\x9d\x9e\x9f",
      "\xa0ĄąŁ€„Š§š©Ș«Ź\xadźŻ°±ČłŽ”¶·žčș»ŒœŸż",
      "ÀÁÂĂÄĆÆÇÈÉÊËÌÍÎÏĐŃÒÓÔŐÖŚŰÙÚÛÜĘȚß",
      "àáâăäćæçèéêëìíîïđńòóôőöśűùúûüęțÿ"]⟩,
  ⟨["iso8859_2", "csisolatin2", "iso_8859_2", "iso_8859_2_1987", "iso_ir_101", "l2", "latin2"],
    ["\x80\x81\x82\x83\x84\x85\x86\x87\x88\x89\x8a\x8b\x8c\x8d\x8e\x8f",
      "\x90\x91\x92\x93\x94\x95\x96\x97\x98\x99\x9a\x9b\x9c\x9d\x9e\x9f",
      "\xa0Ą˘Ł¤ĽŚ§¨ŠŞŤŹ\xadŽŻ°ą˛ł´ľś\u02c7¸šşťź˝žż",
      "ŔÁÂĂÄĹĆÇČÉĘËĚÍÎĎĐŃŇÓÔŐÖ×ŘŮÚŰÜÝŢß",
      "ŕáâăäĺćçčéęëěíîďđńňóôőö÷řůúűüýţ˙"]⟩,
  ⟨["iso8859_3", "csisolatin3", "iso_8859_3", "iso_8859_3_1988", "iso_ir_109", "l3", "latin3"],
    ["\x80\x81\x82\x83\x84\x85\x86\x87\x88\x89\x8a\x8b\x8c\x8d\x8e\x8f",
      "\x90\x91\x92\x93\x94\x95\x96\x97\x98\x99\x9a\x9b\x9c\x9d\x9e\x9f",
      "\xa0Ħ˘£¤\uFFFEĤ§¨İŞĞĴ\xad\uFFFEŻ°ħ²³´µĥ·¸ışğĵ½\uFFFEż",
      "ÀÁÂ\uFFFEÄĊĈÇÈÉÊËÌÍÎÏ\uFFFEÑÒÓÔĠÖ×ĜÙÚÛÜŬŜß",
      "àáâ\uFFFEäċĉçèéêëìíîï\uFFFEñòóôġö÷ĝùúûüŭŝ˙"]⟩,
  ⟨["iso8859_4", "csisolatin4", "iso_8859_4", "iso_8859_4_1988", "iso_ir_110", "l4", "latin4"],
    ["\x80\x81\x82\x83\x84\x85\x86\x87\x88\x89\x8a\x8b\x8c\x8d\x8e\x8f",
      "\x90\x91\x92\x93\x94\x95\x96\x97\x98\x99\x9a\x9b\x9c\x9d\x9e\x9f",
      "\xa0ĄĸŖ¤ĨĻ§¨ŠĒĢŦ\xadŽ¯°ą˛ŗ´ĩļ\u02c7¸šēģŧŊžŋ",
      "ĀÁÂÃÄÅÆĮČÉĘËĖÍÎĪĐŅŌĶÔÕÖ×ØŲÚÛÜŨŪß",
      "āáâãäåæįčéęëėíîīđņōķôõö÷øųúûüũū˙"]⟩,
  ⟨["iso8859_5", "csisolatincyrillic", "cyrillic", "iso_8859_5", "iso_8859_5_1988",
      "iso_ir_144"],
    ["\x80\x81\x82\x83\x84\x85\x86\x87\x88\x89\x8a\x8b\x8c\x8d\x8e\x8f",
      "\x90\x91\x92\x93\x94\x95\x96\x97\x98\x99\x9a\x9b\x9c\x9d\x9e\x9f",
      "\xa0ЁЂЃЄЅІЇЈЉЊЋЌ\xadЎЏАБВГДЕЖЗИЙКЛМНОП",
      "РСТУФХЦЧШЩЪЫЬЭЮЯабвгдежзийклмноп",
      "рстуфхцчшщъыьэюя№ёђѓєѕіїјљњћќ§ўџ"]⟩,
  ⟨["iso8859_6", "arabic", "asmo_708", "csisolatinarabic", "ecma_114", "iso_8859_6",
      "iso_8859_6_1987", "iso_ir_127"],
    ["\x80\x81\x82\x83\x84\x85\x86\x87\x88\x89\x8a\x8b\x8c\x8d\x8e\x8f",
      "\x90\x91\x92\x93\x94\x95\x96\x97\x98\x99\x9a\x9b\x9c\x9d\x9e\x9f",
      "\xa0\uFFFE\uFFFE\uFFFE¤\uFFFE\uFFFE\uFFFE",
      "\uFFFE\uFFFE\uFFFE\uFFFE،\xad\uFFFE\uFFFE",
      "\uFFFE\uFFFE\uFFFE\uFFFE\uFFFE\uFFFE\uFFFE\uFFFE",
      "\uFFFE\uFFFE\uFFFE\u061b\uFFFE\uFFFE\uFFFE\u061f",
      "\uFFFE\u0621\u0622\u0623\u0624\u0625\u0626\u0627",
      "\u0628\u0629\u062a\u062b\u062c\u062d\u062e\u062f",
      "\u0630\u0631\u0632\u0633\u0634\u0635\u0636\u0637",
      "\u0638\u0639\u063a\uFFFE\uFFFE\uFFFE\uFFFE\uFFFE",
      "\u0640\u0641\u0642\u0643\u0644\u0645\u0646\u0647",
      "\u0648\u0649\u064a\u064b\u064c\u064d\u064e\u064f",
      "\u0650\u0651\u0652\uFFFE\uFFFE\uFFFE\uFFFE\uFFFE",
      "\uFFFE\uFFFE\uFFFE\uFFFE\uFFFE\uFFFE\uFFFE\uFFFE"]⟩,
  ⟨["iso8859_7", "csisolatingreek", "ecma_118", "elot_928", "greek", "greek8", "iso_8859_7",
      "iso_8859_7_1987", "iso_ir_126"],
    ["\x80\x81\x82\x83\x84\x85\x86\x87\x88\x89\x8a\x8b\x8c\x8d\x8e\x8f",
      "\x90\x91\x92\x93\x94\x95\x96\x97\x98\x99\x9a\x9b\x9c\x9d\x9e\x9f",
      "\xa0‘’£€₯¦§¨©\u037a«¬\xad\uFFFE―°±²³΄΅Ά·ΈΉΊ»Ό½ΎΏ",
      "ΐΑΒΓΔΕΖΗΘΙΚΛΜΝΞΟΠΡ\uFFFEΣΤΥΦΧΨΩΪΫάέήί",
      "ΰαβγδεζηθικλμνξοπρςστυφχψωϊϋόύώ\uFFFE"]⟩,
  ⟨["iso8859_8", "csisolatinhebrew", "hebrew", "iso_8859_8", "iso_8859_8_1988", "iso_ir_138"],
    ["\x80\x81\x82\x83\x84\x85\x86\x87\x88\x89\x8a\x8b\x8c\x8d\x8e\x8f",
      "\x90\x91\x92\x93\x94\x95\x96\x97\x98\x99\x9a\x9b\x9c\x9d\x9e\x9f",
      "\xa0\uFFFE¢£¤¥¦§¨©×«¬\xad®¯°±²³´µ¶·¸¹÷»¼½¾\uFFFE",
      "\uFFFE\uFFFE\uFFFE\uFFFE\uFFFE\uFFFE\uFFFE\uFFFE",
      "\uFFFE\uFFFE\uFFFE\uFFFE\uFFFE\uFFFE\uFFFE\uFFFE",
      "\uFFFE\uFFFE\uFFFE\uFFFE\uFFFE\uFFFE\uFFFE\uFFFE",
      "\uFFFE\uFFFE\uFFFE\uFFFE\uFFFE\uFFFE\uFFFE‗",
      "\u05d0\u05d1\u05d2\u05d3\u05d4\u05d5\u05d6\u05d7",
      "\u05d8\u05d9\u05da\u05db\u05dc\u05dd\u05de\u05df",
      "\u05e0\u05e1\u05e2\u05e3\u05e4\u05e5\u05e6\u05e7",
      "\u05e8\u05e9\u05ea\uFFFE\uFFFE\u200e\u200f\uFFFE"]⟩,
  ⟨["iso8859_9", "csisolatin5", "iso_8859_9", "iso_8859_9_1989", "iso_ir_148", "l5", "latin5"],
    ["\x80\x81\x82\x83\x84\x85\x86\x87\x88\x89\x8a\x8b\x8c\x8d\x8e\x8f",
      "\x90\x91\x92\x93\x94\x95\x96\x97\x98\x99\x9a\x9b\x9c\x9d\x9e\x9f",
      "\xa0¡¢£¤¥¦§¨©ª«¬\xad®¯°±²³´µ¶·¸¹º»¼½¾¿",
      "ÀÁÂÃÄÅÆÇÈÉÊËÌÍÎÏĞÑÒÓÔÕÖ×ØÙÚÛÜİŞß",
      "àáâãäåæçèéêëìíîïğñòóôõö÷øùúûüışÿ"]⟩]

/-- The pages whose names begin with `mac`. -/
def macPages : List CodePage :=
  [⟨["mac_arabic"],
    ["Ä\xa0ÇÉÑÖÜáàâä\u06ba«çéèêëí…îïñó»ôö÷úùûü",
      " !\x22#$٪&'()*+،-./",
      "\u0660\u0661\u0662\u0663\u0664\u0665\u0666\u0667\u0668\u0669:\u061b<=>\u061f",
      "❊\u0621\u0622\u0623\u0624\u0625\u0626\u0627",
      "\u0628\u0629\u062a\u062b\u062c\u062d\u062e\u062f",
      "\u0630\u0631\u0632\u0633\u0634\u0635\u0636\u0637",
      "\u0638\u0639\u063a[\x5c]^_",
      "\u0640\u0641\u0642\u0643\u0644\u0645\u0646\u0647",
      "\u0648\u0649\u064a\u064b\u064c\u064d\u064e\u064f",
      "\u0650\u0651\u0652\u067e\u0679\u0686\u06d5\u06a4",
      "\u06af\u0688\u0691\x7b|\x7d\u0698\u06d2"]⟩,
  ⟨["mac_croatian"],
    ["ÄÅÇÉÑÖÜáàâäãåçéèêëíìîïñóòôöõúùûü",
      "†°¢£§•¶ß®Š™´¨≠ŽØ∞±≤≥∆µ∂∑∏š∫ªºΩžø",
      "¿¡¬√ƒ≈Ć«Č…\xa0ÀÃÕŒœĐ—“”‘’÷◊\uf8ff©⁄€‹›Æ»",
      "–·‚„‰ÂćÁčÈÍÎÏÌÓÔđÒÚÛÙı\u02c6˜¯πË˚¸Êæ\u02c7"]⟩,
  ⟨["mac_cyrillic", "maccyrillic"],
    ["АБВГДЕЖЗИЙКЛМНОПРСТУФХЦЧШЩЪЫЬЭЮЯ",
      "†°Ґ£§•¶І®©™Ђђ≠Ѓѓ∞±≤≥іµґЈЄєЇїЉљЊњ",
      "јЅ¬√ƒ≈∆«»…\xa0ЋћЌќѕ–—“”‘’÷„ЎўЏџ№Ёёя",
      "абвгдежзийклмнопрстуфхцчшщъыьэю€"]⟩,
  ⟨["mac_farsi"],
    ["Ä\xa0ÇÉÑÖÜáàâä\u06ba«çéèêëí…îïñó»ôö÷úùûü",
      " !\x22#$٪&'()*+،-./۰۱۲۳۴۵۶۷۸۹:\u061b<=>\u061f",
      "❊\u0621\u0622\u0623\u0624\u0625\u0626\u0627",
      "\u0628\u0629\u062a\u062b\u062c\u062d\u062e\u062f",
      "\u0630\u0631\u0632\u0633\u0634\u0635\u0636\u0637",
      "\u0638\u0639\u063a[\x5c]^_",
      "\u0640\u0641\u0642\u0643\u0644\u0645\u0646\u0647",
      "\u0648\u0649\u064a\u064b\u064c\u064d\u064e\u064f",
      "\u0650\u0651\u0652\u067e\u0679\u0686\u06d5\u06a4",
      "\u06af\u0688\u0691\x7b|\x7d\u0698\u06d2"]⟩,
  ⟨["mac_greek", "macgreek"],
    ["Ä¹²É³ÖÜ΅àâä΄¨çéèêë£™îï•½‰ôö¦€ùûü",
      "†ΓΔΘΛΞΠß®©ΣΪ§≠°·Α±≤≥¥ΒΕΖΗΙΚΜΦΫΨΩ",
      "άΝ¬ΟΡ≈Τ«»…\xa0ΥΧΆΈœ–―“”‘’÷ΉΊΌΎέήίόΏ",
      "ύαβψδεφγηιξκλμνοπώρστθωςχυζϊϋΐΰ\xad"]⟩,
  ⟨["mac_iceland", "maciceland"],
    ["ÄÅÇÉÑÖÜáàâäãåçéèêëíìîïñóòôöõúùûü",
      "Ý°¢£§•¶ß®©™´¨≠ÆØ∞±≤≥¥µ∂∑∏π∫ªºΩæø",
      "¿¡¬√ƒ≈∆«»…\xa0ÀÃÕŒœ–—“”‘’÷◊ÿŸ⁄€ÐðÞþ",
      "ý·‚„‰ÂÊÁËÈÍÎÏÌÓÔ\uf8ffÒÚÛÙı\u02c6˜¯˘˙˚¸˝˛\u02c7"]⟩,
  ⟨["mac_latin2", "mac_centeuro", "maccentraleurope", "maclatin2"],
    ["ÄĀāÉĄÖÜáąČäčĆćéŹźĎíďĒēĖóėôöõúĚěü",
      "†°Ę£§•¶ß®©™ę¨≠ģĮįĪ≤≥īĶ∂∑łĻļĽľĹĺŅ",
      "ņŃ¬√ńŇ∆«»…\xa0ňŐÕőŌ–—“”‘’÷◊ōŔŕŘ‹›řŖ",
      "ŗŠ‚„šŚśÁŤťÍŽžŪÓÔūŮÚůŰűŲųÝýķŻŁżĢ\u02c7"]⟩,
  ⟨["mac_roman", "macintosh", "macroman"],
    ["ÄÅÇÉÑÖÜáàâäãåçéèêëíìîïñóòôöõúùûü",
      "†°¢£§•¶ß®©™´¨≠ÆØ∞±≤≥¥µ∂∑∏π∫ªºΩæø",
      "¿¡¬√ƒ≈∆«»…\xa0ÀÃÕŒœ–—“”‘’÷◊ÿŸ⁄€‹›ﬁﬂ",
      "‡·‚„‰ÂÊÁËÈÍÎÏÌÓÔ\uf8ffÒÚÛÙı\u02c6˜¯˘˙˚¸˝˛\u02c7"]⟩,
  ⟨["mac_romanian"],
    ["ÄÅÇÉÑÖÜáàâäãåçéèêëíìîïñóòôöõúùûü",
      "†°¢£§•¶ß®©™´¨≠ĂȘ∞±≤≥¥µ∂∑∏π∫ªºΩăș",
      "¿¡¬√ƒ≈∆«»…\xa0ÀÃÕŒœ–—“”‘’÷◊ÿŸ⁄€‹›Țț",
      "‡·‚„‰ÂÊÁËÈÍÎÏÌÓÔ\uf8ffÒÚÛÙı\u02c6˜¯˘˙˚¸˝˛\u02c7"]⟩,
  ⟨["mac_turkish", "macturkish"],
    ["ÄÅÇÉÑÖÜáàâäãåçéèêëíìîïñóòôöõúùûü",
      "†°¢£§•¶ß®©™´¨≠ÆØ∞±≤≥¥µ∂∑∏π∫ªºΩæø",
      "¿¡¬√ƒ≈∆«»…\xa0ÀÃÕŒœ–—“”‘’÷◊ÿŸĞğİıŞş",
      "‡·‚„‰ÂÊÁËÈÍÎÏÌÓÔ\uf8ffÒÚÛÙ\uf8a0\u02c6˜¯˘˙˚¸˝˛\u02c7"]⟩]

/-- The pages of the family EBCDIC, in which ASCII is not in its place. -/
def ebcdicPages : List CodePage :=
  [⟨["cp037", "037", "csibm037", "ebcdic_cp_ca", "ebcdic_cp_nl", "ebcdic_cp_us", "ebcdic_cp_wt",
      "ibm037", "ibm039"],
    ["\x00\x01\x02\x03\x9c\x09\x86\x7f\x97\x8d\x8e\x0b\x0c\x0d\x0e\x0f",
      "\x10\x11\x12\x13\x9d\x85\x08\x87\x18\x19\x92\x8f\x1c\x1d\x1e\x1f",
      "\x80\x81\x82\x83\x84\x0a\x17\x1b\x88\x89\x8a\x8b\x8c\x05\x06\x07",
      "\x90\x91\x16\x93\x94\x95\x96\x04\x98\x99\x9a\x9b\x14\x15\x9e\x1a",
      " \xa0âäàáãåçñ¢.<(+|&éêëèíîïìß!$*);¬",
      "-/ÂÄÀÁÃÅÇÑ¦,%_>?øÉÊËÈÍÎÏÌ\x60:#@'=\x22",
      "Øabcdefghi«»ðýþ±°jklmnopqrªºæ¸Æ¤",
      "µ~stuvwxyz¡¿ÐÝÞ®^£¥·©§¶¼½¾[]¯¨´×",
      "\x7bABCDEFGHI\xadôöòóõ\x7dJKLMNOPQR¹ûüùúÿ",
      "\x5c÷STUVWXYZ²ÔÖÒÓÕ0123456789³ÛÜÙÚ\x9f"]⟩,
  ⟨["cp1026", "1026", "csibm1026", "ibm1026"],
    ["\x00\x01\x02\x03\x9c\x09\x86\x7f\x97\x8d\x8e\x0b\x0c\x0d\x0e\x0f",
      "\x10\x11\x12\x13\x9d\x85\x08\x87\x18\x19\x92\x8f\x1c\x1d\x1e\x1f",
      "\x80\x81\x82\x83\x84\x0a\x17\x1b\x88\x89\x8a\x8b\x8c\x05\x06\x07",
      "\x90\x91\x16\x93\x94\x95\x96\x04\x98\x99\x9a\x9b\x14\x15\x9e\x1a",
      " \xa0âäàáãå\x7bñÇ.<(+!&éêëèíîïìßĞİ*);^",
      "-/ÂÄÀÁÃÅ[Ñş,%_>?øÉÊËÈÍÎÏÌı:ÖŞ'=Ü",
      "Øabcdefghi«»\x7d\x60¦±°jklmnopqrªºæ¸Æ¤",
      "µöstuvwxyz¡¿]$@®¢£¥·©§¶¼½¾¬|¯¨´×",
      "çABCDEFGHI\xadô~òóõğJKLMNOPQR¹û\x5cùúÿ",
      "ü÷STUVWXYZ²Ô#ÒÓÕ0123456789³Û\x22ÙÚ\x9f"]⟩,
  ⟨["cp1140", "1140", "ibm1140"],
    ["\x00\x01\x02\x03\x9c\x09\x86\x7f\x97\x8d\x8e\x0b\x0c\x0d\x0e\x0f",
      "\x10\x11\x12\x13\x9d\x85\x08\x87\x18\x19\x92\x8f\x1c\x1d\x1e\x1f",
      "\x80\x81\x82\x83\x84\x0a\x17\x1b\x88\x89\x8a\x8b\x8c\x05\x06\x07",
      "\x90\x91\x16\x93\x94\x95\x96\x04\x98\x99\x9a\x9b\x14\x15\x9e\x1a",
      " \xa0âäàáãåçñ¢.<(+|&éêëèíîïìß!$*);¬",
      "-/ÂÄÀÁÃÅÇÑ¦,%_>?øÉÊËÈÍÎÏÌ\x60:#@'=\x22",
      "Øabcdefghi«»ðýþ±°jklmnopqrªºæ¸Æ€",
      "µ~stuvwxyz¡¿ÐÝÞ®^£¥·©§¶¼½¾[]¯¨´×",
      "\x7bABCDEFGHI\xadôöòóõ\x7dJKLMNOPQR¹ûüùúÿ",
      "\x5c÷STUVWXYZ²ÔÖÒÓÕ0123456789³ÛÜÙÚ\x9f"]⟩,
  ⟨["cp273", "273", "csibm273", "ibm273"],
    ["\x00\x01\x02\x03\x9c\x09\x86\x7f\x97\x8d\x8e\x0b\x0c\x0d\x0e\x0f",
      "\x10\x11\x12\x13\x9d\x85\x08\x87\x18\x19\x92\x8f\x1c\x1d\x1e\x1f",
      "\x80\x81\x82\x83\x84\x0a\x17\x1b\x88\x89\x8a\x8b\x8c\x05\x06\x07",
      "\x90\x91\x16\x93\x94\x95\x96\x04\x98\x99\x9a\x9b\x14\x15\x9e\x1a",
      " \xa0â\x7bàáãåçñÄ.<(+!&éêëèíîïì~Ü$*);^",
      "-/Â[ÀÁÃÅÇÑö,%_>?øÉÊËÈÍÎÏÌ\x60:#§'=\x22",
      "Øabcdefghi«»ðýþ±°jklmnopqrªºæ¸Æ¤",
      "µßstuvwxyz¡¿ÐÝÞ®¢£¥·©@¶¼½¾¬|‾¨´×",
      "äABCDEFGHI\xadô¦òóõüJKLMNOPQR¹û\x7dùúÿ",
      "Ö÷STUVWXYZ²Ô\x5cÒÓÕ0123456789³Û]ÙÚ\x9f"]⟩,
  ⟨["cp424", "424", "csibm424", "ebcdic_cp_he", "ibm424"],
    ["\x00\x01\x02\x03\x9c\x09\x86\x7f\x97\x8d\x8e\x0b\x0c\x0d\x0e\x0f",
      "\x10\x11\x12\x13\x9d\x85\x08\x87\x18\x19\x92\x8f\x1c\x1d\x1e\x1f",
      "\x80\x81\x82\x83\x84\x0a\x17\x1b\x88\x89\x8a\x8b\x8c\x05\x06\x07",
      "\x90\x91\x16\x93\x94\x95\x96\x04\x98\x99\x9a\x9b\x14\x15\x9e\x1a",
      " \u05d0\u05d1\u05d2\u05d3\u05d4\u05d5\u05d6\u05d7\u05d8¢.<(+|",
      "&\u05d9\u05da\u05db\u05dc\u05dd\u05de\u05df\u05e0\u05e1!$*);¬",
      "-/\u05e2\u05e3\u05e4\u05e5\u05e6\u05e7\u05e8\u05e9¦,%_>?",
      "\uFFFE\u05ea\uFFFE\uFFFE\xa0\uFFFE\uFFFE\uFFFE‗\x60:#@'=\x22",
      "\uFFFEabcdefghi«»\uFFFE\uFFFE\uFFFE±°jklmnopqr\uFFFE\uFFFE\uFFFE¸\uFFFE¤",
      "µ~stuvwxyz\uFFFE\uFFFE\uFFFE\uFFFE\uFFFE®^£¥·©§¶¼½¾[]¯¨´×",
      "\x7bABCDEFGHI\xad\uFFFE\uFFFE\uFFFE\uFFFE\uFFFE",
      "\x7dJKLMNOPQR¹\uFFFE\uFFFE\uFFFE\uFFFE\uFFFE",
      "\x5c÷STUVWXYZ²\uFFFE\uFFFE\uFFFE\uFFFE\uFFFE0123456789³\uFFFE\uFFFE\uFFFE\uFFFE\x9f"]⟩,
  ⟨["cp500", "500", "csibm500", "ebcdic_cp_be", "ebcdic_cp_ch", "ibm500"],
    ["\x00\x01\x02\x03\x9c\x09\x86\x7f\x97\x8d\x8e\x0b\x0c\x0d\x0e\x0f",
      "\x10\x11\x12\x13\x9d\x85\x08\x87\x18\x19\x92\x8f\x1c\x1d\x1e\x1f",
      "\x80\x81\x82\x83\x84\x0a\x17\x1b\x88\x89\x8a\x8b\x8c\x05\x06\x07",
      "\x90\x91\x16\x93\x94\x95\x96\x04\x98\x99\x9a\x9b\x14\x15\x9e\x1a",
      " \xa0âäàáãåçñ[.<(+!&éêëèíîïìß]$*);^",
      "-/ÂÄÀÁÃÅÇÑ¦,%_>?øÉÊËÈÍÎÏÌ\x60:#@'=\x22",
      "Øabcdefghi«»ðýþ±°jklmnopqrªºæ¸Æ¤",
      "µ~stuvwxyz¡¿ÐÝÞ®¢£¥·©§¶¼½¾¬|¯¨´×",
      "\x7bABCDEFGHI\xadôöòóõ\x7dJKLMNOPQR¹ûüùúÿ",
      "\x5c÷STUVWXYZ²ÔÖÒÓÕ0123456789³ÛÜÙÚ\x9f"]⟩,
  ⟨["cp875"],
    ["\x00\x01\x02\x03\x9c\x09\x86\x7f\x97\x8d\x8e\x0b\x0c\x0d\x0e\x0f",
      "\x10\x11\x12\x13\x9d\x85\x08\x87\x18\x19\x92\x8f\x1c\x1d\x1e\x1f",
      "\x80\x81\x82\x83\x84\x0a\x17\x1b\x88\x89\x8a\x8b\x8c\x05\x06\x07",
      "\x90\x91\x16\x93\x94\x95\x96\x04\x98\x99\x9a\x9b\x14\x15\x9e\x1a",
      " ΑΒΓΔΕΖΗΘΙ[.<(+!&ΚΛΜΝΞΟΠΡΣ]$*);^",
      "-/ΤΥΦΧΨΩΪΫ|,%_>?¨ΆΈΉ\xa0ΊΌΎΏ\x60:#@'=\x22",
      "΅abcdefghiαβγδεζ°jklmnopqrηθικλμ",
      "´~stuvwxyzνξοπρσ£άέήϊίόύϋώςτυφχψ",
      "\x7bABCDEFGHI\xadωΐΰ‘―\x7dJKLMNOPQR±½\x1a·’¦",
      "\x5c\x1aSTUVWXYZ²§\x1a\x1a«¬0123456789³©\x1a\x1a»\x9f"]⟩]

/-- The other pages that are named by a number. -/
def numberedPages : List CodePage :=
  [⟨["cp1006"],
    ["\x80\x81\x82\x83\x84\x85\x86\x87\x88\x89\x8a\x8b\x8c\x8d\x8e\x8f",
      "\x90\x91\x92\x93\x94\x95\x96\x97\x98\x99\x9a\x9b\x9c\x9d\x9e\x9f",
      "\xa0۰۱۲۳۴۵۶",
      "۷۸۹،\u061b\xad\u061f\ufe81",
      "\ufe8d\ufe8e\ufe8e\ufe8f\ufe91\ufb56\ufb58\ufe93",
      "\ufe95\ufe97\ufb66\ufb68\ufe99\ufe9b\ufe9d\ufe9f",
      "\ufb7a\ufb7c\ufea1\ufea3\ufea5\ufea7\ufea9\ufb84",
      "\ufeab\ufead\ufb8c\ufeaf\ufb8a\ufeb1\ufeb3\ufeb5",
      "\ufeb7\ufeb9\ufebb\ufebd\ufebf\ufec1\ufec5\ufec9",
      "\ufeca\ufecb\ufecc\ufecd\ufece\ufecf\ufed0\ufed1",
      "\ufed3\ufed5\ufed7\ufed9\ufedb\ufb92\ufb94\ufedd",
      "\ufedf\ufee0\ufee1\ufee3\ufb9e\ufee5\ufee7\ufe85",
      "\ufeed\ufba6\ufba8\ufba9\ufbaa\ufe80\ufe89\ufe8a",
      "\ufe8b\ufef1\ufef2\ufef3\ufbb0\ufbae\ufe7c\ufe7d"]⟩,
  ⟨["cp1125", "1125", "cp866u", "ibm1125", "ruscii"],
    ["АБВГДЕЖЗИЙКЛМНОПРСТУФХЦЧШЩЪЫЬЭЮЯ",
      "абвгдежзийклмноп░▒▓│┤╡╢╖╕╣║╗╝╜╛┐",
      "└┴┬├─┼╞╟╚╔╩╦╠═╬╧╨╤╥╙╘╒╓╫╪┘┌█▄▌▐▀",
      "рстуфхцчшщъыьэюяЁёҐґЄєІіЇї·√№¤■\xa0"]⟩,
  ⟨["cp437", "437", "cspc8codepage437", "ibm437"],
    ["ÇüéâäàåçêëèïîìÄÅÉæÆôöòûùÿÖÜ¢£¥₧ƒ",
      "áíóúñÑªº¿⌐¬½¼¡«»░▒▓│┤╡╢╖╕╣║╗╝╜╛┐",
      "└┴┬├─┼╞╟╚╔╩╦╠═╬╧╨╤╥╙╘╒╓╫╪┘┌█▄▌▐▀",
      "αßΓπΣσµτΦΘΩδ∞φε∩≡±≥≤⌠⌡÷≈°∙·√\u207f²■\xa0"]⟩,
  ⟨["cp720"],
    ["\x80\x81éâ\x84à\x86çêëèïî\x8d\x8e\x8f",
      "\x90\u0651\u0652ô¤\u0640ûù\u0621\u0622\u0623\u0624£\u0625\u0626\u0627",
      "\u0628\u0629\u062a\u062b\u062c\u062d\u062e\u062f\u0630\u0631\u0632\u0633\u0634\u0635«»",
      "░▒▓│┤╡╢╖╕╣║╗╝╜╛┐",
      "└┴┬├─┼╞╟╚╔╩╦╠═╬╧╨╤╥╙╘╒╓╫╪┘┌█▄▌▐▀",
      "\u0636\u0637\u0638\u0639\u063a\u0641µ\u0642",
      "\u0643\u0644\u0645\u0646\u0647\u0648\u0649\u064a",
      "≡\u064b\u064c\u064d\u064e\u064f\u0650≈",
      "°∙·√\u207f²■\xa0"]⟩,
  ⟨["cp737"],
    ["ΑΒΓΔΕΖΗΘΙΚΛΜΝΞΟΠΡΣΤΥΦΧΨΩαβγδεζηθ",
      "ικλμνξοπρσςτυφχψ░▒▓│┤╡╢╖╕╣║╗╝╜╛┐",
      "└┴┬├─┼╞╟╚╔╩╦╠═╬╧╨╤╥╙╘╒╓╫╪┘┌█▄▌▐▀",
      "ωάέήϊίόύϋώΆΈΉΊΌΎΏ±≥≤ΪΫ÷≈°∙·√\u207f²■\xa0"]⟩,
  ⟨["cp775", "775", "cspc775baltic", "ibm775"],
    ["ĆüéāäģåćłēŖŗīŹÄÅÉæÆōöĢ¢ŚśÖÜø£Ø×¤",
      "ĀĪóŻżź”¦©®¬½¼Ł«»░▒▓│┤ĄČĘĖ╣║╗╝ĮŠ┐",
      "└┴┬├─┼ŲŪ╚╔╩╦╠═╬Žąčęėįšųūž┘┌█▄▌▐▀",
      "ÓßŌŃõÕµńĶķĻļņĒŅ’\xad±“¾¶§÷„°∙·¹³²■\xa0"]⟩,
  ⟨["cp850", "850", "cspc850multilingual", "ibm850"],
    ["ÇüéâäàåçêëèïîìÄÅÉæÆôöòûùÿÖÜø£Ø×ƒ",
      "áíóúñÑªº¿®¬½¼¡«»░▒▓│┤ÁÂÀ©╣║╗╝¢¥┐",
      "└┴┬├─┼ãÃ╚╔╩╦╠═╬¤ðÐÊËÈıÍÎÏ┘┌█▄¦Ì▀",
      "ÓßÔÒõÕµþÞÚÛÙýÝ¯´\xad±‗¾¶§÷¸°¨·¹³²■\xa0"]⟩,
  ⟨["cp852", "852", "cspcp852", "ibm852"],
    ["ÇüéâäůćçłëŐőîŹÄĆÉĹĺôöĽľŚśÖÜŤťŁ×č",
      "áíóúĄąŽžĘę¬źČş«»░▒▓│┤ÁÂĚŞ╣║╗╝Żż┐",
      "└┴┬├─┼Ăă╚╔╩╦╠═╬¤đĐĎËďŇÍÎě┘┌█▄ŢŮ▀",
      "ÓßÔŃńňŠšŔÚŕŰýÝţ´\xad˝˛\u02c7˘§÷¸°¨˙űŘř■\xa0"]⟩,
  ⟨["cp855", "855", "csibm855", "ibm855"],
    ["ђЂѓЃёЁєЄѕЅіІїЇјЈљЉњЊћЋќЌўЎџЏюЮъЪ",
      "аАбБцЦдДеЕфФгГ«»░▒▓│┤хХиИ╣║╗╝йЙ┐",
      "└┴┬├─┼кК╚╔╩╦╠═╬¤лЛмМнНоОп┘┌█▄Пя▀",
      "ЯрРсСтТуУжЖвВьЬ№\xadыЫзЗшШэЭщЩчЧ§■\xa0"]⟩,
  ⟨["cp856"],
    ["\u05d0\u05d1\u05d2\u05d3\u05d4\u05d5\u05d6\u05d7",
      "\u05d8\u05d9\u05da\u05db\u05dc\u05dd\u05de\u05df",
      "\u05e0\u05e1\u05e2\u05e3\u05e4\u05e5\u05e6\u05e7",
      "\u05e8\u05e9\u05ea\uFFFE£\uFFFE×\uFFFE",
      "\uFFFE\uFFFE\uFFFE\uFFFE\uFFFE\uFFFE\uFFFE\uFFFE\uFFFE®¬½¼\uFFFE«»",
      "░▒▓│┤\uFFFE\uFFFE\uFFFE©╣║╗╝¢¥┐",
      "└┴┬├─┼\uFFFE\uFFFE╚╔╩╦╠═╬¤",
      "\uFFFE\uFFFE\uFFFE\uFFFE\uFFFE\uFFFE\uFFFE\uFFFE\uFFFE┘┌█▄¦\uFFFE▀",
      "\uFFFE\uFFFE\uFFFE\uFFFE\uFFFE\uFFFEµ\uFFFE\uFFFE\uFFFE\uFFFE\uFFFE\uFFFE\uFFFE¯´",
      "\xad±‗¾¶§÷¸°¨·¹³²■\xa0"]⟩,
  ⟨["cp857", "857", "csibm857", "ibm857"],
    ["ÇüéâäàåçêëèïîıÄÅÉæÆôöòûùİÖÜø£ØŞş",
      "áíóúñÑĞğ¿®¬½¼¡«»░▒▓│┤ÁÂÀ©╣║╗╝¢¥┐",
      "└┴┬├─┼ãÃ╚╔╩╦╠═╬¤ºªÊËÈ\uFFFEÍÎÏ┘┌█▄¦Ì▀",
      "ÓßÔÒõÕµ\uFFFE×ÚÛÙìÿ¯´\xad±\uFFFE¾¶§÷¸°¨·¹³²■\xa0"]⟩,
  ⟨["cp858", "858", "csibm858", "ibm858"],
    ["ÇüéâäàåçêëèïîìÄÅÉæÆôöòûùÿÖÜø£Ø×ƒ",
      "áíóúñÑªº¿®¬½¼¡«»░▒▓│┤ÁÂÀ©╣║╗╝¢¥┐",
      "└┴┬├─┼ãÃ╚╔╩╦╠═╬¤ðÐÊËÈ€ÍÎÏ┘┌█▄¦Ì▀",
      "ÓßÔÒõÕµþÞÚÛÙýÝ¯´\xad±‗¾¶§÷¸°¨·¹³²■\xa0"]⟩,
  ⟨["cp860", "860", "csibm860", "ibm860"],
    ["ÇüéâãàÁçêÊèÍÔìÃÂÉÀÈôõòÚùÌÕÜ¢£Ù₧Ó",
      "áíóúñÑªº¿Ò¬½¼¡«»░▒▓│┤╡╢╖╕╣║╗╝╜╛┐",
      "└┴┬├─┼╞╟╚╔╩╦╠═╬╧╨╤╥╙╘╒╓╫╪┘┌█▄▌▐▀",
      "αßΓπΣσµτΦΘΩδ∞φε∩≡±≥≤⌠⌡÷≈°∙·√\u207f²■\xa0"]⟩,
  ⟨["cp861", "861", "cp_is", "csibm861", "ibm861"],
    ["ÇüéâäàåçêëèÐðÞÄÅÉæÆôöþûÝýÖÜø£Ø₧ƒ",
      "áíóúÁÍÓÚ¿⌐¬½¼¡«»░▒▓│┤╡╢╖╕╣║╗╝╜╛┐",
      "└┴┬├─┼╞╟╚╔╩╦╠═╬╧╨╤╥╙╘╒╓╫╪┘┌█▄▌▐▀",
      "αßΓπΣσµτΦΘΩδ∞φε∩≡±≥≤⌠⌡÷≈°∙·√\u207f²■\xa0"]⟩,
  ⟨["cp862", "862", "cspc862latinhebrew", "ibm862"],
    ["\u05d0\u05d1\u05d2\u05d3\u05d4\u05d5\u05d6\u05d7",
      "\u05d8\u05d9\u05da\u05db\u05dc\u05dd\u05de\u05df",
      "\u05e0\u05e1\u05e2\u05e3\u05e4\u05e5\u05e6\u05e7",
      "\u05e8\u05e9\u05ea¢£¥₧ƒ",
      "áíóúñÑªº¿⌐¬½¼¡«»░▒▓│┤╡╢╖╕╣║╗╝╜╛┐",
      "└┴┬├─┼╞╟╚╔╩╦╠═╬╧╨╤╥╙╘╒╓╫╪┘┌█▄▌▐▀",
      "αßΓπΣσµτΦΘΩδ∞φε∩≡±≥≤⌠⌡÷≈°∙·√\u207f²■\xa0"]⟩,
  ⟨["cp863", "863", "csibm863", "ibm863"],
    ["ÇüéâÂà¶çêëèïî‗À§ÉÈÊôËÏûù¤ÔÜ¢£ÙÛƒ",
      "¦´óú¨¸³¯Î⌐¬½¼¾«»░▒▓│┤╡╢╖╕╣║╗╝╜╛┐",
      "└┴┬├─┼╞╟╚╔╩╦╠═╬╧╨╤╥╙╘╒╓╫╪┘┌█▄▌▐▀",
      "αßΓπΣσµτΦΘΩδ∞φε∩≡±≥≤⌠⌡÷≈°∙·√\u207f²■\xa0"]⟩,
  ⟨["cp864", "864", "csibm864", "ibm864"],
    ["\x00\x01\x02\x03\x04\x05\x06\x07\x08\x09\x0a\x0b\x0c\x0d\x0e\x0f",
      "\x10\x11\x12\x13\x14\x15\x16\x17\x18\x19\x1a\x1b\x1c\x1d\x1e\x1f",
      " !\x22#$٪&'()*+,-./0123456789:;<=>?",
      "@ABCDEFGHIJKLMNOPQRSTUVWXYZ[\x5c]^_",
      "\x60abcdefghijklmnopqrstuvwxyz\x7b|\x7d~\x7f",
      "°·∙√▒─│┼┤┬├┴┐┌└┘β∞φ±½¼≈«»\ufef7\ufef8\uFFFE\uFFFE\ufefb\ufefc\uFFFE",
      "\xa0\xad\ufe82£¤\ufe84\uFFFE\uFFFE",
      "\ufe8e\ufe8f\ufe95\ufe99،\ufe9d\ufea1\ufea5",
      "\u0660\u0661\u0662\u0663\u0664\u0665\u0666\u0667",
      "\u0668\u0669\ufed1\u061b\ufeb1\ufeb5\ufeb9\u061f",
      "¢\ufe80\ufe81\ufe83\ufe85\ufeca\ufe8b\ufe8d",
      "\ufe91\ufe93\ufe97\ufe9b\ufe9f\ufea3\ufea7\ufea9",
      "\ufeab\ufead\ufeaf\ufeb3\ufeb7\ufebb\ufebf\ufec1",
      "\ufec5\ufecb\ufecf¦¬÷×\ufec9",
      "\u0640\ufed3\ufed7\ufedb\ufedf\ufee3\ufee7\ufeeb",
      "\ufeed\ufeef\ufef3\ufebd\ufecc\ufece\ufecd\ufee1",
      "\ufe7d\u0651\ufee5\ufee9\ufeec\ufef0\ufef2\ufed0",
      "\ufed5\ufef5\ufef6\ufedd\ufed9\ufef1■\uFFFE"]⟩,
  ⟨["cp865", "865", "csibm865", "ibm865"],
    ["ÇüéâäàåçêëèïîìÄÅÉæÆôöòûùÿÖÜø£Ø₧ƒ",
      "áíóúñÑªº¿⌐¬½¼¡«¤░▒▓│┤╡╢╖╕╣║╗╝╜╛┐",
      "└┴┬├─┼╞╟╚╔╩╦╠═╬╧╨╤╥╙╘╒╓╫╪┘┌█▄▌▐▀",
      "αßΓπΣσµτΦΘΩδ∞φε∩≡±≥≤⌠⌡÷≈°∙·√\u207f²■\xa0"]⟩,
  ⟨["cp866", "866", "csibm866", "ibm866"],
    ["АБВГДЕЖЗИЙКЛМНОПРСТУФХЦЧШЩЪЫЬЭЮЯ",
      "абвгдежзийклмноп░▒▓│┤╡╢╖╕╣║╗╝╜╛┐",
      "└┴┬├─┼╞╟╚╔╩╦╠═╬╧╨╤╥╙╘╒╓╫╪┘┌█▄▌▐▀",
      "рстуфхцчшщъыьэюяЁёЄєЇїЎў°∙·√№¤■\xa0"]⟩,
  ⟨["cp869", "869", "cp_gr", "csibm869", "ibm869"],
    ["\uFFFE\uFFFE\uFFFE\uFFFE\uFFFE\uFFFEΆ\uFFFE·¬¦‘’Έ―ΉΊΪΌ\uFFFE\uFFFEΎΫ©Ώ²³ά£έήί",
      "ϊΐόύΑΒΓΔΕΖΗ½ΘΙ«»░▒▓│┤ΚΛΜΝ╣║╗╝ΞΟ┐",
      "└┴┬├─┼ΠΡ╚╔╩╦╠═╬ΣΤΥΦΧΨΩαβγ┘┌█▄δε▀",
      "ζηθικλμνξοπρσςτ΄\xad±υφχ§ψ΅°¨ωϋΰώ■\xa0"]⟩,
  ⟨["cp874"],
    ["€\uFFFE\uFFFE\uFFFE\uFFFE…\uFFFE\uFFFE\uFFFE\uFFFE\uFFFE\uFFFE\uFFFE\uFFFE\uFFFE\uFFFE",
      "\uFFFE‘’“”•–—\uFFFE\uFFFE\uFFFE\uFFFE\uFFFE\uFFFE\uFFFE\uFFFE",
      "\xa0กขฃคฅฆงจฉชซฌญฎฏฐฑฒณดตถทธนบปผฝพฟ",
      "ภมยรฤลฦวศษสหฬอฮฯ",
      "ะ\u0e31าำ\u0e34\u0e35\u0e36\u0e37\u0e38\u0e39\u0e3a\uFFFE\uFFFE\uFFFE\uFFFE฿",
      "เแโใไๅ\u0e46\u0e47\u0e48\u0e49\u0e4a\u0e4b\u0e4c\u0e4d\u0e4e๏",
      "๐๑๒๓๔๕๖๗๘๙๚๛\uFFFE\uFFFE\uFFFE\uFFFE"]⟩]

/-- The pages with names of their own. -/
def namedPages : List CodePage :=
  [⟨["charmap"],
    ["\x80\x81\x82\x83\x84\x85\x86\x87\x88\x89\x8a\x8b\x8c\x8d\x8e\x8f",
      "\x90\x91\x92\x93\x94\x95\x96\x97\x98\x99\x9a\x9b\x9c\x9d\x9e\x9f",
      "\xa0¡¢£¤¥¦§¨©ª«¬\xad®¯°±²³´µ¶·¸¹º»¼½¾¿",
      "ÀÁÂÃÄÅÆÇÈÉÊËÌÍÎÏÐÑÒÓÔÕÖ×ØÙÚÛÜÝÞß",
      "àáâãäåæçèéêëìíîïðñòóôõö÷øùúûüýþÿ"]⟩,
  ⟨["hp_roman8", "cp1051", "ibm1051", "r8", "roman8"],
    ["\x80\x81\x82\x83\x84\x85\x86\x87\x88\x89\x8a\x8b\x8c\x8d\x8e\x8f",
      "\x90\x91\x92\x93\x94\x95\x96\x97\x98\x99\x9a\x9b\x9c\x9d\x9e\x9f",
      "\xa0ÀÂÈÊËÎÏ´\u02cb\u02c6¨˜ÙÛ₤¯Ýý°ÇçÑñ¡¿¤£¥§ƒ¢",
      "âêôûáéóúàèòùäëöüÅîØÆåíøæÄìÖÜÉïßÔ",
      "ÁÃãÐðÍÌÓÒÕõŠšÚŸÿÞþ·µ¶¾—¼½ªº«■»±\uFFFE"]⟩,
  ⟨["koi8_r", "cskoi8r"],
    ["─│┌┐└┘├┤┬┴┼▀▄█▌▐░▒▓⌠■∙√≈≤≥\xa0⌡°²·÷",
      "═║╒ё╓╔╕╖╗╘╙╚╛╜╝╞╟╠╡Ё╢╣╤╥╦╧╨╩╪╫╬©",
      "юабцдефгхийклмнопярстужвьызшэщчъ",
      "ЮАБЦДЕФГХИЙКЛМНОПЯРСТУЖВЬЫЗШЭЩЧЪ"]⟩,
  ⟨["koi8_t"],
    ["қғ‚Ғ„…†‡\uFFFE‰ҳ‹ҲҷҶ\uFFFEҚ‘’“”•–—\uFFFE™\uFFFE›\uFFFE\uFFFE\uFFFE\uFFFE",
      "\uFFFEӯӮё¤ӣ¦§\uFFFE\uFFFE\uFFFE«¬\xad®\uFFFE",
      "°±²Ё\uFFFEӢ¶·\uFFFE№\uFFFE»\uFFFE\uFFFE\uFFFE©",
      "юабцдефгхийклмнопярстужвьызшэщчъ",
      "ЮАБЦДЕФГХИЙКЛМНОПЯРСТУЖВЬЫЗШЭЩЧЪ"]⟩,
  ⟨["koi8_u"],
    ["─│┌┐└┘├┤┬┴┼▀▄█▌▐░▒▓⌠■∙√≈≤≥\xa0⌡°²·÷",
      "═║╒ёє╔ії╗╘╙╚╛ґ╝╞╟╠╡ЁЄ╣ІЇ╦╧╨╩╪Ґ╬©",
      "юабцдефгхийклмнопярстужвьызшэщчъ",
      "ЮАБЦДЕФГХИЙКЛМНОПЯРСТУЖВЬЫЗШЭЩЧЪ"]⟩,
  ⟨["kz1048", "kz_1048", "rk1048", "strk1048_2002"],
    ["ЂЃ‚ѓ„…†‡€‰Љ‹ЊҚҺЏђ‘’“”•–—\uFFFE™љ›њқһџ",
      "\xa0ҰұӘ¤Ө¦§Ё©Ғ«¬\xad®Ү°±Ііөµ¶·ё№ғ»әҢңү",
      "АБВГДЕЖЗИЙКЛМНОПРСТУФХЦЧШЩЪЫЬЭЮЯ",
      "абвгдежзийклмнопрстуфхцчшщъыьэюя"]⟩,
  ⟨["palmos"],
    ["€\x81‚ƒ„…†‡\u02c6‰Š‹Œ♦♣♥♠‘’“”•–—˜™š\x9bœ\x9d\x9eŸ",
      "\xa0¡¢£¤¥¦§¨©ª«¬\xad®¯°±²³´µ¶·¸¹º»¼½¾¿",
      "ÀÁÂÃÄÅÆÇÈÉÊËÌÍÎÏÐÑÒÓÔÕÖ×ØÙÚÛÜÝÞß",
      "àáâãäåæçèéêëìíîïðñòóôõö÷øùúûüýþÿ"]⟩,
  ⟨["ptcp154", "cp154", "csptcp154", "cyrillic_asian", "pt154"],
    ["ҖҒӮғ„…ҶҮҲүҠӢҢҚҺҸҗ‘’“”•–—ҳҷҡӣңқһҹ",
      "\xa0ЎўЈӨҘҰ§Ё©Ә«¬ӯ®Ҝ°ұІіҙө¶·ё№ә»јҪҫҝ",
      "АБВГДЕЖЗИЙКЛМНОПРСТУФХЦЧШЩЪЫЬЭЮЯ",
      "абвгдежзийклмнопрстуфхцчшщъыьэюя"]⟩,
  ⟨["tis_620", "iso_ir_166", "tis620", "tis_620_0", "tis_620_2529_0", "tis_620_2529_1"],
    ["\x80\x81\x82\x83\x84\x85\x86\x87\x88\x89\x8a\x8b\x8c\x8d\x8e\x8f",
      "\x90\x91\x92\x93\x94\x95\x96\x97\x98\x99\x9a\x9b\x9c\x9d\x9e\x9f",
      "\uFFFEกขฃคฅฆงจฉชซฌญฎฏฐฑฒณดตถทธนบปผฝพฟ",
      "ภมยรฤลฦวศษสหฬอฮฯ",
      "ะ\u0e31าำ\u0e34\u0e35\u0e36\u0e37\u0e38\u0e39\u0e3a\uFFFE\uFFFE\uFFFE\uFFFE฿",
      "เแโใไๅ\u0e46\u0e47\u0e48\u0e49\u0e4a\u0e4b\u0e4c\u0e4d\u0e4e๏",
      "๐๑๒๓๔๕๖๗๘๙๚๛\uFFFE\uFFFE\uFFFE\uFFFE"]⟩]

/-- All code pages. -/
def all : List CodePage :=
  ansiPages ++ isoPages ++ macPages ++ ebcdicPages ++ numberedPages ++ namedPages

end CodePage

end FeatureToggles.Text
