/-!
# Code pages

The names of the encodings, and the tables of those that have one byte per character: which
characters the bytes stand for. A table of 128 characters is for the upper half of the bytes, the
lower half being that of ASCII; a byte that stands for nothing has the noncharacter U+FFFF.
-/

namespace DiagramForge.Text

/-- The encodings, each with its other names. -/
def encodingNames : List (String × List String) :=
  [("ascii",
      ["646", "ansi_x3.4_1968", "ansi_x3.4_1986", "ansi_x3_4_1968", "cp367", "csascii", "ibm367",
        "iso646_us", "iso_646.irv_1991", "iso_ir_6", "us", "us_ascii"]),
    ("base64_codec", ["base64", "base_64"]),
    ("big5", ["big5_tw", "csbig5", "x_mac_trad_chinese"]),
    ("big5hkscs", ["big5_hkscs", "hkscs"]),
    ("bz2_codec", ["bz2"]),
    ("charmap", []),
    ("cp037",
      ["037", "csibm037", "ebcdic_cp_ca", "ebcdic_cp_nl", "ebcdic_cp_us", "ebcdic_cp_wt",
        "ibm037", "ibm039"]),
    ("cp1006", []),
    ("cp1026", ["1026", "csibm1026", "ibm1026"]),
    ("cp1125", ["1125", "cp866u", "ibm1125", "ruscii"]),
    ("cp1140", ["1140", "ibm1140"]),
    ("cp1250", ["1250", "windows_1250"]),
    ("cp1251", ["1251", "windows_1251"]),
    ("cp1252", ["1252", "windows_1252"]),
    ("cp1253", ["1253", "windows_1253"]),
    ("cp1254", ["1254", "windows_1254"]),
    ("cp1255", ["1255", "windows_1255"]),
    ("cp1256", ["1256", "windows_1256"]),
    ("cp1257", ["1257", "windows_1257"]),
    ("cp1258", ["1258", "windows_1258"]),
    ("cp273", ["273", "csibm273", "ibm273"]),
    ("cp424", ["424", "csibm424", "ebcdic_cp_he", "ibm424"]),
    ("cp437", ["437", "cspc8codepage437", "ibm437"]),
    ("cp500", ["500", "csibm500", "ebcdic_cp_be", "ebcdic_cp_ch", "ibm500"]),
    ("cp720", []),
    ("cp737", []),
    ("cp775", ["775", "cspc775baltic", "ibm775"]),
    ("cp850", ["850", "cspc850multilingual", "ibm850"]),
    ("cp852", ["852", "cspcp852", "ibm852"]),
    ("cp855", ["855", "csibm855", "ibm855"]),
    ("cp856", []),
    ("cp857", ["857", "csibm857", "ibm857"]),
    ("cp858", ["858", "csibm858", "ibm858"]),
    ("cp860", ["860", "csibm860", "ibm860"]),
    ("cp861", ["861", "cp_is", "csibm861", "ibm861"]),
    ("cp862", ["862", "cspc862latinhebrew", "ibm862"]),
    ("cp863", ["863", "csibm863", "ibm863"]),
    ("cp864", ["864", "csibm864", "ibm864"]),
    ("cp865", ["865", "csibm865", "ibm865"]),
    ("cp866", ["866", "csibm866", "ibm866"]),
    ("cp869", ["869", "cp_gr", "csibm869", "ibm869"]),
    ("cp874", []),
    ("cp875", []),
    ("cp932", ["932", "ms932", "ms_kanji", "mskanji"]),
    ("cp949", ["949", "ms949", "uhc"]),
    ("cp950", ["950", "ms950"]),
    ("euc_jis_2004", ["euc_jis2004", "eucjis2004", "jisx0213"]),
    ("euc_jisx0213", ["eucjisx0213"]),
    ("euc_jp", ["eucjp", "u_jis", "ujis"]),
    ("euc_kr",
      ["euckr", "korean", "ks_c_5601", "ks_c_5601_1987", "ks_x_1001", "ksc5601", "ksx1001",
        "x_mac_korean"]),
    ("gb18030", ["gb18030_2000"]),
    ("gb2312",
      ["chinese", "csiso58gb231280", "euc_cn", "euccn", "eucgb2312_cn", "gb2312_1980",
        "gb2312_80", "iso_ir_58", "x_mac_simp_chinese"]),
    ("gbk", ["936", "cp936", "ms936"]),
    ("hex_codec", ["hex"]),
    ("hp_roman8", ["cp1051", "ibm1051", "r8", "roman8"]),
    ("hz", ["hz_gb", "hz_gb_2312", "hzgb"]),
    ("idna", []),
    ("iso2022_jp", ["csiso2022jp", "iso2022jp", "iso_2022_jp"]),
    ("iso2022_jp_1", ["iso2022jp_1", "iso_2022_jp_1"]),
    ("iso2022_jp_2", ["iso2022jp_2", "iso_2022_jp_2"]),
    ("iso2022_jp_2004", ["iso2022jp_2004", "iso_2022_jp_2004"]),
    ("iso2022_jp_3", ["iso2022jp_3", "iso_2022_jp_3"]),
    ("iso2022_jp_ext", ["iso2022jp_ext", "iso_2022_jp_ext"]),
    ("iso2022_kr", ["csiso2022kr", "iso2022kr", "iso_2022_kr"]),
    ("iso8859_10",
      ["csisolatin6", "iso_8859_10", "iso_8859_10_1992", "iso_ir_157", "l6", "latin6"]),
    ("iso8859_11", ["iso_8859_11", "iso_8859_11_2001", "thai"]),
    ("iso8859_13", ["iso_8859_13", "l7", "latin7"]),
    ("iso8859_14",
      ["iso_8859_14", "iso_8859_14_1998", "iso_celtic", "iso_ir_199", "l8", "latin8"]),
    ("iso8859_15", ["iso_8859_15", "l9", "latin9"]),
    ("iso8859_16", ["iso_8859_16", "iso_8859_16_2001", "iso_ir_226", "l10", "latin10"]),
    ("iso8859_2",
      ["csisolatin2", "iso_8859_2", "iso_8859_2_1987", "iso_ir_101", "l2", "latin2"]),
    ("iso8859_3",
      ["csisolatin3", "iso_8859_3", "iso_8859_3_1988", "iso_ir_109", "l3", "latin3"]),
    ("iso8859_4",
      ["csisolatin4", "iso_8859_4", "iso_8859_4_1988", "iso_ir_110", "l4", "latin4"]),
    ("iso8859_5",
      ["csisolatincyrillic", "cyrillic", "iso_8859_5", "iso_8859_5_1988", "iso_ir_144"]),
    ("iso8859_6",
      ["arabic", "asmo_708", "csisolatinarabic", "ecma_114", "iso_8859_6", "iso_8859_6_1987",
        "iso_ir_127"]),
    ("iso8859_7",
      ["csisolatingreek", "ecma_118", "elot_928", "greek", "greek8", "iso_8859_7",
        "iso_8859_7_1987", "iso_ir_126"]),
    ("iso8859_8",
      ["csisolatinhebrew", "hebrew", "iso_8859_8", "iso_8859_8_1988", "iso_ir_138"]),
    ("iso8859_9",
      ["csisolatin5", "iso_8859_9", "iso_8859_9_1989", "iso_ir_148", "l5", "latin5"]),
    ("johab", ["cp1361", "ms1361"]),
    ("koi8_r", ["cskoi8r"]),
    ("koi8_t", []),
    ("koi8_u", []),
    ("kz1048", ["kz_1048", "rk1048", "strk1048_2002"]),
    ("latin_1",
      ["8859", "cp819", "csisolatin1", "ibm819", "iso8859", "iso8859_1", "iso_8859_1",
        "iso_8859_1_1987", "iso_ir_100", "l1", "latin", "latin1"]),
    ("mac_arabic", []),
    ("mac_croatian", []),
    ("mac_cyrillic", ["maccyrillic"]),
    ("mac_farsi", []),
    ("mac_greek", ["macgreek"]),
    ("mac_iceland", ["maciceland"]),
    ("mac_latin2", ["mac_centeuro", "maccentraleurope", "maclatin2"]),
    ("mac_roman", ["macintosh", "macroman"]),
    ("mac_romanian", []),
    ("mac_turkish", ["macturkish"]),
    ("palmos", []),
    ("ptcp154", ["cp154", "csptcp154", "cyrillic_asian", "pt154"]),
    ("quopri_codec", ["quopri", "quoted_printable", "quotedprintable"]),
    ("raw_unicode_escape", []),
    ("rot_13", ["rot13"]),
    ("shift_jis", ["csshiftjis", "s_jis", "shiftjis", "sjis", "x_mac_japanese"]),
    ("shift_jis_2004", ["s_jis_2004", "shiftjis2004", "sjis_2004"]),
    ("shift_jisx0213", ["s_jisx0213", "shiftjisx0213", "sjisx0213"]),
    ("tis_620", ["iso_ir_166", "tis620", "tis_620_0", "tis_620_2529_0", "tis_620_2529_1"]),
    ("undefined", []),
    ("unicode_escape", []),
    ("utf_16", ["u16", "utf16"]),
    ("utf_16_be", ["unicodebigunmarked", "utf_16be"]),
    ("utf_16_le", ["unicodelittleunmarked", "utf_16le"]),
    ("utf_32", ["u32", "utf32"]),
    ("utf_32_be", ["utf_32be"]),
    ("utf_32_le", ["utf_32le"]),
    ("utf_7", ["u7", "unicode_1_1_utf_7", "utf7"]),
    ("utf_8", ["cp65001", "u8", "utf", "utf8", "utf8_ucs2", "utf8_ucs4"]),
    ("utf_8_sig", []),
    ("uu_codec", ["uu"]),
    ("zlib_codec", ["zip", "zlib"])]

/-- The encodings of one byte per character with their tables. -/
def codePages : List (String × String) :=
  [("cp037",
      "\x00\x01\x02\x03\u009C\x09\u0086\x7f\u0097\u008D\u008E\x0b\x0c\x0d\x0e\x0f\x10\x11"
        ++ "\x12\x13\u009D\u0085\x08\u0087\x18\x19\u0092\u008F\x1c\x1d\x1e\x1f\u0080\u0081\u0082"
        ++ "\u0083\u0084\x0a\x17\x1b\u0088\u0089\u008A\u008B\u008C\x05\x06\x07\u0090\u0091\x16"
        ++ "\u0093\u0094\u0095\u0096\x04\u0098\u0099\u009A\u009B\x14\x15\u009E\x1a \u00A0âäàáãåç"
        ++ "ñ¢.<(+|&éêëèíîïìß!$*);¬-/ÂÄÀÁÃÅÇÑ¦,%_>?øÉÊËÈÍÎÏÌ`:#@'=\"Øabcdefghi«»ðýþ±°jklmnopqrªº"
        ++ "æ¸Æ¤µ~stuvwxyz¡¿ÐÝÞ®^£¥·©§¶¼½¾[]¯¨´×\x7bABCDEFGHI\u00ADôöòóõ\x7dJKLMNOPQR¹ûüùúÿ\\÷ST"
        ++ "UVWXYZ²ÔÖÒÓÕ0123456789³ÛÜÙÚ\u009F"),
    ("cp1006",
      "\u0080\u0081\u0082\u0083\u0084\u0085\u0086\u0087\u0088\u0089\u008A\u008B\u008C\u008D"
        ++ "\u008E\u008F\u0090\u0091\u0092\u0093\u0094\u0095\u0096\u0097\u0098\u0099\u009A\u009B"
        ++ "\u009C\u009D\u009E\u009F\u00A0۰۱۲۳۴۵۶۷۸۹،\u061B\u00AD\u061F\uFE81\uFE8D\uFFFF\uFE8E"
        ++ "\uFE8F\uFE91\uFB56\uFB58\uFE93\uFE95\uFE97\uFB66\uFB68\uFE99\uFE9B\uFE9D\uFE9F\uFB7A"
        ++ "\uFB7C\uFEA1\uFEA3\uFEA5\uFEA7\uFEA9\uFB84\uFEAB\uFEAD\uFB8C\uFEAF\uFB8A\uFEB1\uFEB3"
        ++ "\uFEB5\uFEB7\uFEB9\uFEBB\uFEBD\uFEBF\uFEC1\uFEC5\uFEC9\uFECA\uFECB\uFECC\uFECD\uFECE"
        ++ "\uFECF\uFED0\uFED1\uFED3\uFED5\uFED7\uFED9\uFEDB\uFB92\uFB94\uFEDD\uFEDF\uFEE0\uFEE1"
        ++ "\uFEE3\uFB9E\uFEE5\uFEE7\uFE85\uFEED\uFBA6\uFBA8\uFBA9\uFBAA\uFE80\uFE89\uFE8A\uFE8B"
        ++ "\uFEF1\uFEF2\uFEF3\uFBB0\uFBAE\uFE7C\uFE7D"),
    ("cp1026",
      "\x00\x01\x02\x03\u009C\x09\u0086\x7f\u0097\u008D\u008E\x0b\x0c\x0d\x0e\x0f\x10\x11"
        ++ "\x12\x13\u009D\u0085\x08\u0087\x18\x19\u0092\u008F\x1c\x1d\x1e\x1f\u0080\u0081\u0082"
        ++ "\u0083\u0084\x0a\x17\x1b\u0088\u0089\u008A\u008B\u008C\x05\x06\x07\u0090\u0091\x16"
        ++ "\u0093\u0094\u0095\u0096\x04\u0098\u0099\u009A\u009B\x14\x15\u009E\x1a \u00A0âäàáãå"
        ++ "\x7bñÇ.<(+!&éêëèíîïìßĞİ*);^-/ÂÄÀÁÃÅ[Ñş,%_>?øÉÊËÈÍÎÏÌı:ÖŞ'=ÜØabcdefghi«»\x7d`¦±°jklmn"
        ++ "opqrªºæ¸Æ¤µöstuvwxyz¡¿]$@®¢£¥·©§¶¼½¾¬|¯¨´×çABCDEFGHI\u00ADô~òóõğJKLMNOPQR¹û\\ùúÿü÷ST"
        ++ "UVWXYZ²Ô#ÒÓÕ0123456789³Û\"ÙÚ\u009F"),
    ("cp1125",
      "АБВГДЕЖЗИЙКЛМНОПРСТУФХЦЧШЩЪЫЬЭЮЯабвгдежзийклмноп░▒▓│┤╡╢╖╕╣║╗╝╜╛┐└┴┬├─┼╞╟╚╔╩╦╠═╬╧╨╤╥╙"
        ++ "╘╒╓╫╪┘┌█▄▌▐▀рстуфхцчшщъыьэюяЁёҐґЄєІіЇї·√№¤■\u00A0"),
    ("cp1140",
      "\x00\x01\x02\x03\u009C\x09\u0086\x7f\u0097\u008D\u008E\x0b\x0c\x0d\x0e\x0f\x10\x11"
        ++ "\x12\x13\u009D\u0085\x08\u0087\x18\x19\u0092\u008F\x1c\x1d\x1e\x1f\u0080\u0081\u0082"
        ++ "\u0083\u0084\x0a\x17\x1b\u0088\u0089\u008A\u008B\u008C\x05\x06\x07\u0090\u0091\x16"
        ++ "\u0093\u0094\u0095\u0096\x04\u0098\u0099\u009A\u009B\x14\x15\u009E\x1a \u00A0âäàáãåç"
        ++ "ñ¢.<(+|&éêëèíîïìß!$*);¬-/ÂÄÀÁÃÅÇÑ¦,%_>?øÉÊËÈÍÎÏÌ`:#@'=\"Øabcdefghi«»ðýþ±°jklmnopqrªº"
        ++ "æ¸Æ€µ~stuvwxyz¡¿ÐÝÞ®^£¥·©§¶¼½¾[]¯¨´×\x7bABCDEFGHI\u00ADôöòóõ\x7dJKLMNOPQR¹ûüùúÿ\\÷ST"
        ++ "UVWXYZ²ÔÖÒÓÕ0123456789³ÛÜÙÚ\u009F"),
    ("cp1250",
      "€\uFFFF‚\uFFFF„…†‡\uFFFF‰Š‹ŚŤŽŹ\uFFFF‘’“”•–—\uFFFF™š›śťžź\u00A0ˇ˘Ł¤Ą¦§¨©Ş«¬\u00AD®Ż°"
        ++ "±˛ł´µ¶·¸ąş»Ľ˝ľżŔÁÂĂÄĹĆÇČÉĘËĚÍÎĎĐŃŇÓÔŐÖ×ŘŮÚŰÜÝŢßŕáâăäĺćçčéęëěíîďđńňóôőö÷řůúűüýţ˙"),
    ("cp1251",
      "ЂЃ‚ѓ„…†‡€‰Љ‹ЊЌЋЏђ‘’“”•–—\uFFFF™љ›њќћџ\u00A0ЎўЈ¤Ґ¦§Ё©Є«¬\u00AD®Ї°±Ііґµ¶·ё№є»јЅѕїАБВГД"
        ++ "ЕЖЗИЙКЛМНОПРСТУФХЦЧШЩЪЫЬЭЮЯабвгдежзийклмнопрстуфхцчшщъыьэюя"),
    ("cp1252",
      "€\uFFFF‚ƒ„…†‡ˆ‰Š‹Œ\uFFFFŽ\uFFFF\uFFFF‘’“”•–—˜™š›œ\uFFFFžŸ\u00A0¡¢£¤¥¦§¨©ª«¬\u00AD®¯°"
        ++ "±²³´µ¶·¸¹º»¼½¾¿ÀÁÂÃÄÅÆÇÈÉÊËÌÍÎÏÐÑÒÓÔÕÖ×ØÙÚÛÜÝÞßàáâãäåæçèéêëìíîïðñòóôõö÷øùúûüýþÿ"),
    ("cp1253",
      "€\uFFFF‚ƒ„…†‡\uFFFF‰\uFFFF‹\uFFFF\uFFFF\uFFFF\uFFFF\uFFFF‘’“”•–—\uFFFF™\uFFFF›\uFFFF"
        ++ "\uFFFF\uFFFF\uFFFF\u00A0΅Ά£¤¥¦§¨©\uFFFF«¬\u00AD®―°±²³΄µ¶·ΈΉΊ»Ό½ΎΏΐΑΒΓΔΕΖΗΘΙΚΛΜΝΞΟΠΡ"
        ++ "\uFFFFΣΤΥΦΧΨΩΪΫάέήίΰαβγδεζηθικλμνξοπρςστυφχψωϊϋόύώ\uFFFF"),
    ("cp1254",
      "€\uFFFF‚ƒ„…†‡ˆ‰Š‹Œ\uFFFF\uFFFF\uFFFF\uFFFF‘’“”•–—˜™š›œ\uFFFF\uFFFFŸ\u00A0¡¢£¤¥¦§¨©ª«"
        ++ "¬\u00AD®¯°±²³´µ¶·¸¹º»¼½¾¿ÀÁÂÃÄÅÆÇÈÉÊËÌÍÎÏĞÑÒÓÔÕÖ×ØÙÚÛÜİŞßàáâãäåæçèéêëìíîïğñòóôõö÷øùú"
        ++ "ûüışÿ"),
    ("cp1255",
      "€\uFFFF‚ƒ„…†‡ˆ‰\uFFFF‹\uFFFF\uFFFF\uFFFF\uFFFF\uFFFF‘’“”•–—˜™\uFFFF›\uFFFF\uFFFF"
        ++ "\uFFFF\uFFFF\u00A0¡¢£₪¥¦§¨©×«¬\u00AD®¯°±²³´µ¶·¸¹÷»¼½¾¿\u05B0\u05B1\u05B2\u05B3\u05B4"
        ++ "\u05B5\u05B6\u05B7\u05B8\u05B9\uFFFF\u05BB\u05BC\u05BD\u05BE\u05BF\u05C0\u05C1\u05C2"
        ++ "\u05C3\u05F0\u05F1\u05F2\u05F3\u05F4\uFFFF\uFFFF\uFFFF\uFFFF\uFFFF\uFFFF\uFFFF\u05D0"
        ++ "\u05D1\u05D2\u05D3\u05D4\u05D5\u05D6\u05D7\u05D8\u05D9\u05DA\u05DB\u05DC\u05DD\u05DE"
        ++ "\u05DF\u05E0\u05E1\u05E2\u05E3\u05E4\u05E5\u05E6\u05E7\u05E8\u05E9\u05EA\uFFFF\uFFFF"
        ++ "\u200E\u200F\uFFFF"),
    ("cp1256",
      "€\u067E‚ƒ„…†‡ˆ‰\u0679‹Œ\u0686\u0698\u0688\u06AF‘’“”•–—\u06A9™\u0691›œ\u200C\u200D"
        ++ "\u06BA\u00A0،¢£¤¥¦§¨©\u06BE«¬\u00AD®¯°±²³´µ¶·¸¹\u061B»¼½¾\u061F\u06C1\u0621\u0622"
        ++ "\u0623\u0624\u0625\u0626\u0627\u0628\u0629\u062A\u062B\u062C\u062D\u062E\u062F\u0630"
        ++ "\u0631\u0632\u0633\u0634\u0635\u0636×\u0637\u0638\u0639\u063A\u0640\u0641\u0642"
        ++ "\u0643à\u0644â\u0645\u0646\u0647\u0648çèéêë\u0649\u064Aîï\u064B\u064C\u064D\u064Eô"
        ++ "\u064F\u0650÷\u0651ù\u0652ûü\u200E\u200F\u06D2"),
    ("cp1257",
      "€\uFFFF‚\uFFFF„…†‡\uFFFF‰\uFFFF‹\uFFFF¨ˇ¸\uFFFF‘’“”•–—\uFFFF™\uFFFF›\uFFFF¯˛\uFFFF"
        ++ "\u00A0\uFFFF¢£¤\uFFFF¦§Ø©Ŗ«¬\u00AD®Æ°±²³´µ¶·ø¹ŗ»¼½¾æĄĮĀĆÄÅĘĒČÉŹĖĢĶĪĻŠŃŅÓŌÕÖ×ŲŁŚŪÜŻŽß"
        ++ "ąįāćäåęēčéźėģķīļšńņóōõö÷ųłśūüżž˙"),
    ("cp1258",
      "€\uFFFF‚ƒ„…†‡ˆ‰\uFFFF‹Œ\uFFFF\uFFFF\uFFFF\uFFFF‘’“”•–—˜™\uFFFF›œ\uFFFF\uFFFFŸ\u00A0¡"
        ++ "¢£¤¥¦§¨©ª«¬\u00AD®¯°±²³´µ¶·¸¹º»¼½¾¿ÀÁÂĂÄÅÆÇÈÉÊË\u0300ÍÎÏĐÑ\u0309ÓÔƠÖ×ØÙÚÛÜƯ\u0303ßàá"
        ++ "âăäåæçèéêë\u0301íîïđñ\u0323óôơö÷øùúûüư₫ÿ"),
    ("cp273",
      "\x00\x01\x02\x03\u009C\x09\u0086\x7f\u0097\u008D\u008E\x0b\x0c\x0d\x0e\x0f\x10\x11"
        ++ "\x12\x13\u009D\u0085\x08\u0087\x18\x19\u0092\u008F\x1c\x1d\x1e\x1f\u0080\u0081\u0082"
        ++ "\u0083\u0084\x0a\x17\x1b\u0088\u0089\u008A\u008B\u008C\x05\x06\x07\u0090\u0091\x16"
        ++ "\u0093\u0094\u0095\u0096\x04\u0098\u0099\u009A\u009B\x14\x15\u009E\x1a \u00A0â\x7bàá"
        ++ "ãåçñÄ.<(+!&éêëèíîïì~Ü$*);^-/Â[ÀÁÃÅÇÑö,%_>?øÉÊËÈÍÎÏÌ`:#§'=\"Øabcdefghi«»ðýþ±°jklmnopq"
        ++ "rªºæ¸Æ¤µßstuvwxyz¡¿ÐÝÞ®¢£¥·©@¶¼½¾¬|‾¨´×äABCDEFGHI\u00ADô¦òóõüJKLMNOPQR¹û\x7dùúÿÖ÷STU"
        ++ "VWXYZ²Ô\\ÒÓÕ0123456789³Û]ÙÚ\u009F"),
    ("cp424",
      "\x00\x01\x02\x03\u009C\x09\u0086\x7f\u0097\u008D\u008E\x0b\x0c\x0d\x0e\x0f\x10\x11"
        ++ "\x12\x13\u009D\u0085\x08\u0087\x18\x19\u0092\u008F\x1c\x1d\x1e\x1f\u0080\u0081\u0082"
        ++ "\u0083\u0084\x0a\x17\x1b\u0088\u0089\u008A\u008B\u008C\x05\x06\x07\u0090\u0091\x16"
        ++ "\u0093\u0094\u0095\u0096\x04\u0098\u0099\u009A\u009B\x14\x15\u009E\x1a \u05D0\u05D1"
        ++ "\u05D2\u05D3\u05D4\u05D5\u05D6\u05D7\u05D8¢.<(+|&\u05D9\u05DA\u05DB\u05DC\u05DD"
        ++ "\u05DE\u05DF\u05E0\u05E1!$*);¬-/\u05E2\u05E3\u05E4\u05E5\u05E6\u05E7\u05E8\u05E9¦,%_"
        ++ ">?\uFFFF\u05EA\uFFFF\uFFFF\u00A0\uFFFF\uFFFF\uFFFF‗`:#@'=\"\uFFFFabcdefghi«»\uFFFF"
        ++ "\uFFFF\uFFFF±°jklmnopqr\uFFFF\uFFFF\uFFFF¸\uFFFF¤µ~stuvwxyz\uFFFF\uFFFF\uFFFF\uFFFF"
        ++ "\uFFFF®^£¥·©§¶¼½¾[]¯¨´×\x7bABCDEFGHI\u00AD\uFFFF\uFFFF\uFFFF\uFFFF\uFFFF\x7dJKLMNOPQ"
        ++ "R¹\uFFFF\uFFFF\uFFFF\uFFFF\uFFFF\\÷STUVWXYZ²\uFFFF\uFFFF\uFFFF\uFFFF\uFFFF0123456789"
        ++ "³\uFFFF\uFFFF\uFFFF\uFFFF\u009F"),
    ("cp437",
      "ÇüéâäàåçêëèïîìÄÅÉæÆôöòûùÿÖÜ¢£¥₧ƒáíóúñÑªº¿⌐¬½¼¡«»░▒▓│┤╡╢╖╕╣║╗╝╜╛┐└┴┬├─┼╞╟╚╔╩╦╠═╬╧╨╤╥╙"
        ++ "╘╒╓╫╪┘┌█▄▌▐▀αßΓπΣσµτΦΘΩδ∞φε∩≡±≥≤⌠⌡÷≈°∙·√ⁿ²■\u00A0"),
    ("cp500",
      "\x00\x01\x02\x03\u009C\x09\u0086\x7f\u0097\u008D\u008E\x0b\x0c\x0d\x0e\x0f\x10\x11"
        ++ "\x12\x13\u009D\u0085\x08\u0087\x18\x19\u0092\u008F\x1c\x1d\x1e\x1f\u0080\u0081\u0082"
        ++ "\u0083\u0084\x0a\x17\x1b\u0088\u0089\u008A\u008B\u008C\x05\x06\x07\u0090\u0091\x16"
        ++ "\u0093\u0094\u0095\u0096\x04\u0098\u0099\u009A\u009B\x14\x15\u009E\x1a \u00A0âäàáãåç"
        ++ "ñ[.<(+!&éêëèíîïìß]$*);^-/ÂÄÀÁÃÅÇÑ¦,%_>?øÉÊËÈÍÎÏÌ`:#@'=\"Øabcdefghi«»ðýþ±°jklmnopqrªº"
        ++ "æ¸Æ¤µ~stuvwxyz¡¿ÐÝÞ®¢£¥·©§¶¼½¾¬|¯¨´×\x7bABCDEFGHI\u00ADôöòóõ\x7dJKLMNOPQR¹ûüùúÿ\\÷ST"
        ++ "UVWXYZ²ÔÖÒÓÕ0123456789³ÛÜÙÚ\u009F"),
    ("cp720",
      "\u0080\u0081éâ\u0084à\u0086çêëèïî\u008D\u008E\u008F\u0090\u0651\u0652ô¤\u0640ûù"
        ++ "\u0621\u0622\u0623\u0624£\u0625\u0626\u0627\u0628\u0629\u062A\u062B\u062C\u062D"
        ++ "\u062E\u062F\u0630\u0631\u0632\u0633\u0634\u0635«»░▒▓│┤╡╢╖╕╣║╗╝╜╛┐└┴┬├─┼╞╟╚╔╩╦╠═╬╧╨╤"
        ++ "╥╙╘╒╓╫╪┘┌█▄▌▐▀\u0636\u0637\u0638\u0639\u063A\u0641µ\u0642\u0643\u0644\u0645\u0646"
        ++ "\u0647\u0648\u0649\u064A≡\u064B\u064C\u064D\u064E\u064F\u0650≈°∙·√ⁿ²■\u00A0"),
    ("cp737",
      "ΑΒΓΔΕΖΗΘΙΚΛΜΝΞΟΠΡΣΤΥΦΧΨΩαβγδεζηθικλμνξοπρσςτυφχψ░▒▓│┤╡╢╖╕╣║╗╝╜╛┐└┴┬├─┼╞╟╚╔╩╦╠═╬╧╨╤╥╙"
        ++ "╘╒╓╫╪┘┌█▄▌▐▀ωάέήϊίόύϋώΆΈΉΊΌΎΏ±≥≤ΪΫ÷≈°∙·√ⁿ²■\u00A0"),
    ("cp775",
      "ĆüéāäģåćłēŖŗīŹÄÅÉæÆōöĢ¢ŚśÖÜø£Ø×¤ĀĪóŻżź”¦©®¬½¼Ł«»░▒▓│┤ĄČĘĖ╣║╗╝ĮŠ┐└┴┬├─┼ŲŪ╚╔╩╦╠═╬Žąčęė"
        ++ "įšųūž┘┌█▄▌▐▀ÓßŌŃõÕµńĶķĻļņĒŅ’\u00AD±“¾¶§÷„°∙·¹³²■\u00A0"),
    ("cp850",
      "ÇüéâäàåçêëèïîìÄÅÉæÆôöòûùÿÖÜø£Ø×ƒáíóúñÑªº¿®¬½¼¡«»░▒▓│┤ÁÂÀ©╣║╗╝¢¥┐└┴┬├─┼ãÃ╚╔╩╦╠═╬¤ðÐÊË"
        ++ "ÈıÍÎÏ┘┌█▄¦Ì▀ÓßÔÒõÕµþÞÚÛÙýÝ¯´\u00AD±‗¾¶§÷¸°¨·¹³²■\u00A0"),
    ("cp852",
      "ÇüéâäůćçłëŐőîŹÄĆÉĹĺôöĽľŚśÖÜŤťŁ×čáíóúĄąŽžĘę¬źČş«»░▒▓│┤ÁÂĚŞ╣║╗╝Żż┐└┴┬├─┼Ăă╚╔╩╦╠═╬¤đĐĎË"
        ++ "ďŇÍÎě┘┌█▄ŢŮ▀ÓßÔŃńňŠšŔÚŕŰýÝţ´\u00AD˝˛ˇ˘§÷¸°¨˙űŘř■\u00A0"),
    ("cp855",
      "ђЂѓЃёЁєЄѕЅіІїЇјЈљЉњЊћЋќЌўЎџЏюЮъЪаАбБцЦдДеЕфФгГ«»░▒▓│┤хХиИ╣║╗╝йЙ┐└┴┬├─┼кК╚╔╩╦╠═╬¤лЛмМ"
        ++ "нНоОп┘┌█▄Пя▀ЯрРсСтТуУжЖвВьЬ№\u00ADыЫзЗшШэЭщЩчЧ§■\u00A0"),
    ("cp856",
      "\u05D0\u05D1\u05D2\u05D3\u05D4\u05D5\u05D6\u05D7\u05D8\u05D9\u05DA\u05DB\u05DC\u05DD"
        ++ "\u05DE\u05DF\u05E0\u05E1\u05E2\u05E3\u05E4\u05E5\u05E6\u05E7\u05E8\u05E9\u05EA\uFFFF"
        ++ "£\uFFFF×\uFFFF\uFFFF\uFFFF\uFFFF\uFFFF\uFFFF\uFFFF\uFFFF\uFFFF\uFFFF®¬½¼\uFFFF«»░▒▓│"
        ++ "┤\uFFFF\uFFFF\uFFFF©╣║╗╝¢¥┐└┴┬├─┼\uFFFF\uFFFF╚╔╩╦╠═╬¤\uFFFF\uFFFF\uFFFF\uFFFF\uFFFF"
        ++ "\uFFFF\uFFFF\uFFFF\uFFFF┘┌█▄¦\uFFFF▀\uFFFF\uFFFF\uFFFF\uFFFF\uFFFF\uFFFFµ\uFFFF"
        ++ "\uFFFF\uFFFF\uFFFF\uFFFF\uFFFF\uFFFF¯´\u00AD±‗¾¶§÷¸°¨·¹³²■\u00A0"),
    ("cp857",
      "ÇüéâäàåçêëèïîıÄÅÉæÆôöòûùİÖÜø£ØŞşáíóúñÑĞğ¿®¬½¼¡«»░▒▓│┤ÁÂÀ©╣║╗╝¢¥┐└┴┬├─┼ãÃ╚╔╩╦╠═╬¤ºªÊË"
        ++ "È\uFFFFÍÎÏ┘┌█▄¦Ì▀ÓßÔÒõÕµ\uFFFF×ÚÛÙìÿ¯´\u00AD±\uFFFF¾¶§÷¸°¨·¹³²■\u00A0"),
    ("cp858",
      "ÇüéâäàåçêëèïîìÄÅÉæÆôöòûùÿÖÜø£Ø×ƒáíóúñÑªº¿®¬½¼¡«»░▒▓│┤ÁÂÀ©╣║╗╝¢¥┐└┴┬├─┼ãÃ╚╔╩╦╠═╬¤ðÐÊË"
        ++ "È€ÍÎÏ┘┌█▄¦Ì▀ÓßÔÒõÕµþÞÚÛÙýÝ¯´\u00AD±‗¾¶§÷¸°¨·¹³²■\u00A0"),
    ("cp860",
      "ÇüéâãàÁçêÊèÍÔìÃÂÉÀÈôõòÚùÌÕÜ¢£Ù₧ÓáíóúñÑªº¿Ò¬½¼¡«»░▒▓│┤╡╢╖╕╣║╗╝╜╛┐└┴┬├─┼╞╟╚╔╩╦╠═╬╧╨╤╥╙"
        ++ "╘╒╓╫╪┘┌█▄▌▐▀αßΓπΣσµτΦΘΩδ∞φε∩≡±≥≤⌠⌡÷≈°∙·√ⁿ²■\u00A0"),
    ("cp861",
      "ÇüéâäàåçêëèÐðÞÄÅÉæÆôöþûÝýÖÜø£Ø₧ƒáíóúÁÍÓÚ¿⌐¬½¼¡«»░▒▓│┤╡╢╖╕╣║╗╝╜╛┐└┴┬├─┼╞╟╚╔╩╦╠═╬╧╨╤╥╙"
        ++ "╘╒╓╫╪┘┌█▄▌▐▀αßΓπΣσµτΦΘΩδ∞φε∩≡±≥≤⌠⌡÷≈°∙·√ⁿ²■\u00A0"),
    ("cp862",
      "\u05D0\u05D1\u05D2\u05D3\u05D4\u05D5\u05D6\u05D7\u05D8\u05D9\u05DA\u05DB\u05DC\u05DD"
        ++ "\u05DE\u05DF\u05E0\u05E1\u05E2\u05E3\u05E4\u05E5\u05E6\u05E7\u05E8\u05E9\u05EA¢£¥₧ƒá"
        ++ "íóúñÑªº¿⌐¬½¼¡«»░▒▓│┤╡╢╖╕╣║╗╝╜╛┐└┴┬├─┼╞╟╚╔╩╦╠═╬╧╨╤╥╙╘╒╓╫╪┘┌█▄▌▐▀αßΓπΣσµτΦΘΩδ∞φε∩≡±≥≤⌠"
        ++ "⌡÷≈°∙·√ⁿ²■\u00A0"),
    ("cp863",
      "ÇüéâÂà¶çêëèïî‗À§ÉÈÊôËÏûù¤ÔÜ¢£ÙÛƒ¦´óú¨¸³¯Î⌐¬½¼¾«»░▒▓│┤╡╢╖╕╣║╗╝╜╛┐└┴┬├─┼╞╟╚╔╩╦╠═╬╧╨╤╥╙"
        ++ "╘╒╓╫╪┘┌█▄▌▐▀αßΓπΣσµτΦΘΩδ∞φε∩≡±≥≤⌠⌡÷≈°∙·√ⁿ²■\u00A0"),
    ("cp864",
      "\x00\x01\x02\x03\x04\x05\x06\x07\x08\x09\x0a\x0b\x0c\x0d\x0e\x0f\x10\x11\x12\x13\x14"
        ++ "\x15\x16\x17\x18\x19\x1a\x1b\x1c\x1d\x1e\x1f !\"#$٪&'()*+,-./0123456789:;<=>?@ABCDEF"
        ++ "GHIJKLMNOPQRSTUVWXYZ[\\]^_`abcdefghijklmnopqrstuvwxyz\x7b|\x7d~\x7f°·∙√▒─│┼┤┬├┴┐┌└┘β"
        ++ "∞φ±½¼≈«»\uFEF7\uFEF8\uFFFF\uFFFF\uFEFB\uFEFC\uFFFF\u00A0\u00AD\uFE82£¤\uFE84\uFFFF"
        ++ "\uFFFF\uFE8E\uFE8F\uFE95\uFE99،\uFE9D\uFEA1\uFEA5\u0660\u0661\u0662\u0663\u0664"
        ++ "\u0665\u0666\u0667\u0668\u0669\uFED1\u061B\uFEB1\uFEB5\uFEB9\u061F¢\uFE80\uFE81"
        ++ "\uFE83\uFE85\uFECA\uFE8B\uFE8D\uFE91\uFE93\uFE97\uFE9B\uFE9F\uFEA3\uFEA7\uFEA9\uFEAB"
        ++ "\uFEAD\uFEAF\uFEB3\uFEB7\uFEBB\uFEBF\uFEC1\uFEC5\uFECB\uFECF¦¬÷×\uFEC9\u0640\uFED3"
        ++ "\uFED7\uFEDB\uFEDF\uFEE3\uFEE7\uFEEB\uFEED\uFEEF\uFEF3\uFEBD\uFECC\uFECE\uFECD\uFEE1"
        ++ "\uFE7D\u0651\uFEE5\uFEE9\uFEEC\uFEF0\uFEF2\uFED0\uFED5\uFEF5\uFEF6\uFEDD\uFED9\uFEF1"
        ++ "■\uFFFF"),
    ("cp865",
      "ÇüéâäàåçêëèïîìÄÅÉæÆôöòûùÿÖÜø£Ø₧ƒáíóúñÑªº¿⌐¬½¼¡«¤░▒▓│┤╡╢╖╕╣║╗╝╜╛┐└┴┬├─┼╞╟╚╔╩╦╠═╬╧╨╤╥╙"
        ++ "╘╒╓╫╪┘┌█▄▌▐▀αßΓπΣσµτΦΘΩδ∞φε∩≡±≥≤⌠⌡÷≈°∙·√ⁿ²■\u00A0"),
    ("cp866",
      "АБВГДЕЖЗИЙКЛМНОПРСТУФХЦЧШЩЪЫЬЭЮЯабвгдежзийклмноп░▒▓│┤╡╢╖╕╣║╗╝╜╛┐└┴┬├─┼╞╟╚╔╩╦╠═╬╧╨╤╥╙"
        ++ "╘╒╓╫╪┘┌█▄▌▐▀рстуфхцчшщъыьэюяЁёЄєЇїЎў°∙·√№¤■\u00A0"),
    ("cp869",
      "\uFFFF\uFFFF\uFFFF\uFFFF\uFFFF\uFFFFΆ\uFFFF·¬¦‘’Έ―ΉΊΪΌ\uFFFF\uFFFFΎΫ©Ώ²³ά£έήίϊΐόύΑΒΓ"
        ++ "ΔΕΖΗ½ΘΙ«»░▒▓│┤ΚΛΜΝ╣║╗╝ΞΟ┐└┴┬├─┼ΠΡ╚╔╩╦╠═╬ΣΤΥΦΧΨΩαβγ┘┌█▄δε▀ζηθικλμνξοπρσςτ΄\u00AD±υφχ§"
        ++ "ψ΅°¨ωϋΰώ■\u00A0"),
    ("cp874",
      "€\uFFFF\uFFFF\uFFFF\uFFFF…\uFFFF\uFFFF\uFFFF\uFFFF\uFFFF\uFFFF\uFFFF\uFFFF\uFFFF"
        ++ "\uFFFF\uFFFF‘’“”•–—\uFFFF\uFFFF\uFFFF\uFFFF\uFFFF\uFFFF\uFFFF\uFFFF\u00A0กขฃคฅฆงจฉชซ"
        ++ "ฌญฎฏฐฑฒณดตถทธนบปผฝพฟภมยรฤลฦวศษสหฬอฮฯะ\u0E31าำ\u0E34\u0E35\u0E36\u0E37\u0E38\u0E39"
        ++ "\u0E3A\uFFFF\uFFFF\uFFFF\uFFFF฿เแโใไๅๆ\u0E47\u0E48\u0E49\u0E4A\u0E4B\u0E4C\u0E4D"
        ++ "\u0E4E๏๐๑๒๓๔๕๖๗๘๙๚๛\uFFFF\uFFFF\uFFFF\uFFFF"),
    ("cp875",
      "\x00\x01\x02\x03\u009C\x09\u0086\x7f\u0097\u008D\u008E\x0b\x0c\x0d\x0e\x0f\x10\x11"
        ++ "\x12\x13\u009D\u0085\x08\u0087\x18\x19\u0092\u008F\x1c\x1d\x1e\x1f\u0080\u0081\u0082"
        ++ "\u0083\u0084\x0a\x17\x1b\u0088\u0089\u008A\u008B\u008C\x05\x06\x07\u0090\u0091\x16"
        ++ "\u0093\u0094\u0095\u0096\x04\u0098\u0099\u009A\u009B\x14\x15\u009E\uFFFF ΑΒΓΔΕΖΗΘΙ[."
        ++ "<(+!&ΚΛΜΝΞΟΠΡΣ]$*);^-/ΤΥΦΧΨΩΪΫ|,%_>?¨ΆΈΉ\u00A0ΊΌΎΏ`:#@'=\"΅abcdefghiαβγδεζ°jklmnopqr"
        ++ "ηθικλμ´~stuvwxyzνξοπρσ£άέήϊίόύϋώςτυφχψ\x7bABCDEFGHI\u00ADωΐΰ‘―\x7dJKLMNOPQR±½\uFFFF·"
        ++ "’¦\\\uFFFFSTUVWXYZ²§\uFFFF\uFFFF«¬0123456789³©\uFFFF\x1a»\u009F"),
    ("hp_roman8",
      "\u0080\u0081\u0082\u0083\u0084\u0085\u0086\u0087\u0088\u0089\u008A\u008B\u008C\u008D"
        ++ "\u008E\u008F\u0090\u0091\u0092\u0093\u0094\u0095\u0096\u0097\u0098\u0099\u009A\u009B"
        ++ "\u009C\u009D\u009E\u009F\u00A0ÀÂÈÊËÎÏ´ˋˆ¨˜ÙÛ₤¯Ýý°ÇçÑñ¡¿¤£¥§ƒ¢âêôûáéóúàèòùäëöüÅîØÆåíø"
        ++ "æÄìÖÜÉïßÔÁÃãÐðÍÌÓÒÕõŠšÚŸÿÞþ·µ¶¾—¼½ªº«■»±\uFFFF"),
    ("iso8859_10",
      "\u0080\u0081\u0082\u0083\u0084\u0085\u0086\u0087\u0088\u0089\u008A\u008B\u008C\u008D"
        ++ "\u008E\u008F\u0090\u0091\u0092\u0093\u0094\u0095\u0096\u0097\u0098\u0099\u009A\u009B"
        ++ "\u009C\u009D\u009E\u009F\u00A0ĄĒĢĪĨĶ§ĻĐŠŦŽ\u00ADŪŊ°ąēģīĩķ·ļđšŧž―ūŋĀÁÂÃÄÅÆĮČÉĘËĖÍÎÏÐŅ"
        ++ "ŌÓÔÕÖŨØŲÚÛÜÝÞßāáâãäåæįčéęëėíîïðņōóôõöũøųúûüýþĸ"),
    ("iso8859_11",
      "\u0080\u0081\u0082\u0083\u0084\u0085\u0086\u0087\u0088\u0089\u008A\u008B\u008C\u008D"
        ++ "\u008E\u008F\u0090\u0091\u0092\u0093\u0094\u0095\u0096\u0097\u0098\u0099\u009A\u009B"
        ++ "\u009C\u009D\u009E\u009F\u00A0กขฃคฅฆงจฉชซฌญฎฏฐฑฒณดตถทธนบปผฝพฟภมยรฤลฦวศษสหฬอฮฯะ\u0E31"
        ++ "าำ\u0E34\u0E35\u0E36\u0E37\u0E38\u0E39\u0E3A\uFFFF\uFFFF\uFFFF\uFFFF฿เแโใไๅๆ\u0E47"
        ++ "\u0E48\u0E49\u0E4A\u0E4B\u0E4C\u0E4D\u0E4E๏๐๑๒๓๔๕๖๗๘๙๚๛\uFFFF\uFFFF\uFFFF\uFFFF"),
    ("iso8859_13",
      "\u0080\u0081\u0082\u0083\u0084\u0085\u0086\u0087\u0088\u0089\u008A\u008B\u008C\u008D"
        ++ "\u008E\u008F\u0090\u0091\u0092\u0093\u0094\u0095\u0096\u0097\u0098\u0099\u009A\u009B"
        ++ "\u009C\u009D\u009E\u009F\u00A0”¢£¤„¦§Ø©Ŗ«¬\u00AD®Æ°±²³“µ¶·ø¹ŗ»¼½¾æĄĮĀĆÄÅĘĒČÉŹĖĢĶĪĻŠŃ"
        ++ "ŅÓŌÕÖ×ŲŁŚŪÜŻŽßąįāćäåęēčéźėģķīļšńņóōõö÷ųłśūüżž’"),
    ("iso8859_14",
      "\u0080\u0081\u0082\u0083\u0084\u0085\u0086\u0087\u0088\u0089\u008A\u008B\u008C\u008D"
        ++ "\u008E\u008F\u0090\u0091\u0092\u0093\u0094\u0095\u0096\u0097\u0098\u0099\u009A\u009B"
        ++ "\u009C\u009D\u009E\u009F\u00A0Ḃḃ£ĊċḊ§Ẁ©ẂḋỲ\u00AD®ŸḞḟĠġṀṁ¶ṖẁṗẃṠỳẄẅṡÀÁÂÃÄÅÆÇÈÉÊËÌÍÎÏŴÑ"
        ++ "ÒÓÔÕÖṪØÙÚÛÜÝŶßàáâãäåæçèéêëìíîïŵñòóôõöṫøùúûüýŷÿ"),
    ("iso8859_15",
      "\u0080\u0081\u0082\u0083\u0084\u0085\u0086\u0087\u0088\u0089\u008A\u008B\u008C\u008D"
        ++ "\u008E\u008F\u0090\u0091\u0092\u0093\u0094\u0095\u0096\u0097\u0098\u0099\u009A\u009B"
        ++ "\u009C\u009D\u009E\u009F\u00A0¡¢£€¥Š§š©ª«¬\u00AD®¯°±²³Žµ¶·ž¹º»ŒœŸ¿ÀÁÂÃÄÅÆÇÈÉÊËÌÍÎÏÐÑ"
        ++ "ÒÓÔÕÖ×ØÙÚÛÜÝÞßàáâãäåæçèéêëìíîïðñòóôõö÷øùúûüýþÿ"),
    ("iso8859_16",
      "\u0080\u0081\u0082\u0083\u0084\u0085\u0086\u0087\u0088\u0089\u008A\u008B\u008C\u008D"
        ++ "\u008E\u008F\u0090\u0091\u0092\u0093\u0094\u0095\u0096\u0097\u0098\u0099\u009A\u009B"
        ++ "\u009C\u009D\u009E\u009F\u00A0ĄąŁ€„Š§š©Ș«Ź\u00ADźŻ°±ČłŽ”¶·žčș»ŒœŸżÀÁÂĂÄĆÆÇÈÉÊËÌÍÎÏĐŃ"
        ++ "ÒÓÔŐÖŚŰÙÚÛÜĘȚßàáâăäćæçèéêëìíîïđńòóôőöśűùúûüęțÿ"),
    ("iso8859_2",
      "\u0080\u0081\u0082\u0083\u0084\u0085\u0086\u0087\u0088\u0089\u008A\u008B\u008C\u008D"
        ++ "\u008E\u008F\u0090\u0091\u0092\u0093\u0094\u0095\u0096\u0097\u0098\u0099\u009A\u009B"
        ++ "\u009C\u009D\u009E\u009F\u00A0Ą˘Ł¤ĽŚ§¨ŠŞŤŹ\u00ADŽŻ°ą˛ł´ľśˇ¸šşťź˝žżŔÁÂĂÄĹĆÇČÉĘËĚÍÎĎĐŃ"
        ++ "ŇÓÔŐÖ×ŘŮÚŰÜÝŢßŕáâăäĺćçčéęëěíîďđńňóôőö÷řůúűüýţ˙"),
    ("iso8859_3",
      "\u0080\u0081\u0082\u0083\u0084\u0085\u0086\u0087\u0088\u0089\u008A\u008B\u008C\u008D"
        ++ "\u008E\u008F\u0090\u0091\u0092\u0093\u0094\u0095\u0096\u0097\u0098\u0099\u009A\u009B"
        ++ "\u009C\u009D\u009E\u009F\u00A0Ħ˘£¤\uFFFFĤ§¨İŞĞĴ\u00AD\uFFFFŻ°ħ²³´µĥ·¸ışğĵ½\uFFFFżÀÁÂ"
        ++ "\uFFFFÄĊĈÇÈÉÊËÌÍÎÏ\uFFFFÑÒÓÔĠÖ×ĜÙÚÛÜŬŜßàáâ\uFFFFäċĉçèéêëìíîï\uFFFFñòóôġö÷ĝùúûüŭŝ˙"),
    ("iso8859_4",
      "\u0080\u0081\u0082\u0083\u0084\u0085\u0086\u0087\u0088\u0089\u008A\u008B\u008C\u008D"
        ++ "\u008E\u008F\u0090\u0091\u0092\u0093\u0094\u0095\u0096\u0097\u0098\u0099\u009A\u009B"
        ++ "\u009C\u009D\u009E\u009F\u00A0ĄĸŖ¤ĨĻ§¨ŠĒĢŦ\u00ADŽ¯°ą˛ŗ´ĩļˇ¸šēģŧŊžŋĀÁÂÃÄÅÆĮČÉĘËĖÍÎĪĐŅ"
        ++ "ŌĶÔÕÖ×ØŲÚÛÜŨŪßāáâãäåæįčéęëėíîīđņōķôõö÷øųúûüũū˙"),
    ("iso8859_5",
      "\u0080\u0081\u0082\u0083\u0084\u0085\u0086\u0087\u0088\u0089\u008A\u008B\u008C\u008D"
        ++ "\u008E\u008F\u0090\u0091\u0092\u0093\u0094\u0095\u0096\u0097\u0098\u0099\u009A\u009B"
        ++ "\u009C\u009D\u009E\u009F\u00A0ЁЂЃЄЅІЇЈЉЊЋЌ\u00ADЎЏАБВГДЕЖЗИЙКЛМНОПРСТУФХЦЧШЩЪЫЬЭЮЯаб"
        ++ "вгдежзийклмнопрстуфхцчшщъыьэюя№ёђѓєѕіїјљњћќ§ўџ"),
    ("iso8859_6",
      "\u0080\u0081\u0082\u0083\u0084\u0085\u0086\u0087\u0088\u0089\u008A\u008B\u008C\u008D"
        ++ "\u008E\u008F\u0090\u0091\u0092\u0093\u0094\u0095\u0096\u0097\u0098\u0099\u009A\u009B"
        ++ "\u009C\u009D\u009E\u009F\u00A0\uFFFF\uFFFF\uFFFF¤\uFFFF\uFFFF\uFFFF\uFFFF\uFFFF"
        ++ "\uFFFF\uFFFF،\u00AD\uFFFF\uFFFF\uFFFF\uFFFF\uFFFF\uFFFF\uFFFF\uFFFF\uFFFF\uFFFF"
        ++ "\uFFFF\uFFFF\uFFFF\u061B\uFFFF\uFFFF\uFFFF\u061F\uFFFF\u0621\u0622\u0623\u0624\u0625"
        ++ "\u0626\u0627\u0628\u0629\u062A\u062B\u062C\u062D\u062E\u062F\u0630\u0631\u0632\u0633"
        ++ "\u0634\u0635\u0636\u0637\u0638\u0639\u063A\uFFFF\uFFFF\uFFFF\uFFFF\uFFFF\u0640\u0641"
        ++ "\u0642\u0643\u0644\u0645\u0646\u0647\u0648\u0649\u064A\u064B\u064C\u064D\u064E\u064F"
        ++ "\u0650\u0651\u0652\uFFFF\uFFFF\uFFFF\uFFFF\uFFFF\uFFFF\uFFFF\uFFFF\uFFFF\uFFFF\uFFFF"
        ++ "\uFFFF\uFFFF"),
    ("iso8859_7",
      "\u0080\u0081\u0082\u0083\u0084\u0085\u0086\u0087\u0088\u0089\u008A\u008B\u008C\u008D"
        ++ "\u008E\u008F\u0090\u0091\u0092\u0093\u0094\u0095\u0096\u0097\u0098\u0099\u009A\u009B"
        ++ "\u009C\u009D\u009E\u009F\u00A0‘’£€₯¦§¨©ͺ«¬\u00AD\uFFFF―°±²³΄΅Ά·ΈΉΊ»Ό½ΎΏΐΑΒΓΔΕΖΗΘΙΚΛΜ"
        ++ "ΝΞΟΠΡ\uFFFFΣΤΥΦΧΨΩΪΫάέήίΰαβγδεζηθικλμνξοπρςστυφχψωϊϋόύώ\uFFFF"),
    ("iso8859_8",
      "\u0080\u0081\u0082\u0083\u0084\u0085\u0086\u0087\u0088\u0089\u008A\u008B\u008C\u008D"
        ++ "\u008E\u008F\u0090\u0091\u0092\u0093\u0094\u0095\u0096\u0097\u0098\u0099\u009A\u009B"
        ++ "\u009C\u009D\u009E\u009F\u00A0\uFFFF¢£¤¥¦§¨©×«¬\u00AD®¯°±²³´µ¶·¸¹÷»¼½¾\uFFFF\uFFFF"
        ++ "\uFFFF\uFFFF\uFFFF\uFFFF\uFFFF\uFFFF\uFFFF\uFFFF\uFFFF\uFFFF\uFFFF\uFFFF\uFFFF\uFFFF"
        ++ "\uFFFF\uFFFF\uFFFF\uFFFF\uFFFF\uFFFF\uFFFF\uFFFF\uFFFF\uFFFF\uFFFF\uFFFF\uFFFF\uFFFF"
        ++ "\uFFFF\uFFFF‗\u05D0\u05D1\u05D2\u05D3\u05D4\u05D5\u05D6\u05D7\u05D8\u05D9\u05DA"
        ++ "\u05DB\u05DC\u05DD\u05DE\u05DF\u05E0\u05E1\u05E2\u05E3\u05E4\u05E5\u05E6\u05E7\u05E8"
        ++ "\u05E9\u05EA\uFFFF\uFFFF\u200E\u200F\uFFFF"),
    ("iso8859_9",
      "\u0080\u0081\u0082\u0083\u0084\u0085\u0086\u0087\u0088\u0089\u008A\u008B\u008C\u008D"
        ++ "\u008E\u008F\u0090\u0091\u0092\u0093\u0094\u0095\u0096\u0097\u0098\u0099\u009A\u009B"
        ++ "\u009C\u009D\u009E\u009F\u00A0¡¢£¤¥¦§¨©ª«¬\u00AD®¯°±²³´µ¶·¸¹º»¼½¾¿ÀÁÂÃÄÅÆÇÈÉÊËÌÍÎÏĞÑ"
        ++ "ÒÓÔÕÖ×ØÙÚÛÜİŞßàáâãäåæçèéêëìíîïğñòóôõö÷øùúûüışÿ"),
    ("koi8_r",
      "─│┌┐└┘├┤┬┴┼▀▄█▌▐░▒▓⌠■∙√≈≤≥\u00A0⌡°²·÷═║╒ё╓╔╕╖╗╘╙╚╛╜╝╞╟╠╡Ё╢╣╤╥╦╧╨╩╪╫╬©юабцдефгхийклмн"
        ++ "опярстужвьызшэщчъЮАБЦДЕФГХИЙКЛМНОПЯРСТУЖВЬЫЗШЭЩЧЪ"),
    ("koi8_t",
      "қғ‚Ғ„…†‡\uFFFF‰ҳ‹ҲҷҶ\uFFFFҚ‘’“”•–—\uFFFF™\uFFFF›\uFFFF\uFFFF\uFFFF\uFFFF\uFFFFӯӮё¤ӣ¦"
        ++ "§\uFFFF\uFFFF\uFFFF«¬\u00AD®\uFFFF°±²Ё\uFFFFӢ¶·\uFFFF№\uFFFF»\uFFFF\uFFFF\uFFFF©юабц"
        ++ "дефгхийклмнопярстужвьызшэщчъЮАБЦДЕФГХИЙКЛМНОПЯРСТУЖВЬЫЗШЭЩЧЪ"),
    ("koi8_u",
      "─│┌┐└┘├┤┬┴┼▀▄█▌▐░▒▓⌠■∙√≈≤≥\u00A0⌡°²·÷═║╒ёє╔ії╗╘╙╚╛ґ╝╞╟╠╡ЁЄ╣ІЇ╦╧╨╩╪Ґ╬©юабцдефгхийклмн"
        ++ "опярстужвьызшэщчъЮАБЦДЕФГХИЙКЛМНОПЯРСТУЖВЬЫЗШЭЩЧЪ"),
    ("kz1048",
      "ЂЃ‚ѓ„…†‡€‰Љ‹ЊҚҺЏђ‘’“”•–—\uFFFF™љ›њқһџ\u00A0ҰұӘ¤Ө¦§Ё©Ғ«¬\u00AD®Ү°±Ііөµ¶·ё№ғ»әҢңүАБВГД"
        ++ "ЕЖЗИЙКЛМНОПРСТУФХЦЧШЩЪЫЬЭЮЯабвгдежзийклмнопрстуфхцчшщъыьэюя"),
    ("mac_arabic",
      "\x00\x01\x02\x03\x04\x05\x06\x07\x08\x09\x0a\x0b\x0c\x0d\x0e\x0f\x10\x11\x12\x13\x14"
        ++ "\x15\x16\x17\x18\x19\x1a\x1b\x1c\x1d\x1e\x1f\uFFFF\uFFFF\uFFFF\uFFFF\uFFFF%\uFFFF"
        ++ "\uFFFF\uFFFF\uFFFF\uFFFF\uFFFF,\uFFFF\uFFFF\uFFFF0123456789\uFFFF;\uFFFF\uFFFF\uFFFF"
        ++ "?@ABCDEFGHIJKLMNOPQRSTUVWXYZ\uFFFF\uFFFF\uFFFF\uFFFF\uFFFF`abcdefghijklmnopqrstuvwxy"
        ++ "z\uFFFF\uFFFF\uFFFF~\x7fÄ\u00A0ÇÉÑÖÜáàâä\u06BA«çéèêëí…îïñó»ôö÷úùûü !\"#$٪&'()*+،-./"
        ++ "\u0660\u0661\u0662\u0663\u0664\u0665\u0666\u0667\u0668\u0669:\u061B<=>\u061F❊\u0621"
        ++ "\u0622\u0623\u0624\u0625\u0626\u0627\u0628\u0629\u062A\u062B\u062C\u062D\u062E\u062F"
        ++ "\u0630\u0631\u0632\u0633\u0634\u0635\u0636\u0637\u0638\u0639\u063A[\\]^_\u0640\u0641"
        ++ "\u0642\u0643\u0644\u0645\u0646\u0647\u0648\u0649\u064A\u064B\u064C\u064D\u064E\u064F"
        ++ "\u0650\u0651\u0652\u067E\u0679\u0686\u06D5\u06A4\u06AF\u0688\u0691\x7b|\x7d\u0698"
        ++ "\u06D2"),
    ("mac_croatian",
      "ÄÅÇÉÑÖÜáàâäãåçéèêëíìîïñóòôöõúùûü†°¢£§•¶ß®Š™´¨≠ŽØ∞±≤≥∆µ∂∑∏š∫ªºΩžø¿¡¬√ƒ≈Ć«Č…\u00A0ÀÃÕŒ"
        ++ "œĐ—“”‘’÷◊\uF8FF©⁄€‹›Æ»–·‚„‰ÂćÁčÈÍÎÏÌÓÔđÒÚÛÙıˆ˜¯πË˚¸Êæˇ"),
    ("mac_cyrillic",
      "АБВГДЕЖЗИЙКЛМНОПРСТУФХЦЧШЩЪЫЬЭЮЯ†°Ґ£§•¶І®©™Ђђ≠Ѓѓ∞±≤≥іµґЈЄєЇїЉљЊњјЅ¬√ƒ≈∆«»…\u00A0ЋћЌќ"
        ++ "ѕ–—“”‘’÷„ЎўЏџ№Ёёяабвгдежзийклмнопрстуфхцчшщъыьэю€"),
    ("mac_farsi",
      "\x00\x01\x02\x03\x04\x05\x06\x07\x08\x09\x0a\x0b\x0c\x0d\x0e\x0f\x10\x11\x12\x13\x14"
        ++ "\x15\x16\x17\x18\x19\x1a\x1b\x1c\x1d\x1e\x1f\uFFFF\uFFFF\uFFFF\uFFFF\uFFFF%\uFFFF"
        ++ "\uFFFF\uFFFF\uFFFF\uFFFF\uFFFF,\uFFFF\uFFFF\uFFFF0123456789\uFFFF;\uFFFF\uFFFF\uFFFF"
        ++ "?@ABCDEFGHIJKLMNOPQRSTUVWXYZ\uFFFF\uFFFF\uFFFF\uFFFF\uFFFF`abcdefghijklmnopqrstuvwxy"
        ++ "z\uFFFF\uFFFF\uFFFF~\x7fÄ\u00A0ÇÉÑÖÜáàâä\u06BA«çéèêëí…îïñó»ôö÷úùûü !\"#$٪&'()*+،-./۰"
        ++ "۱۲۳۴۵۶۷۸۹:\u061B<=>\u061F❊\u0621\u0622\u0623\u0624\u0625\u0626\u0627\u0628\u0629"
        ++ "\u062A\u062B\u062C\u062D\u062E\u062F\u0630\u0631\u0632\u0633\u0634\u0635\u0636\u0637"
        ++ "\u0638\u0639\u063A[\\]^_\u0640\u0641\u0642\u0643\u0644\u0645\u0646\u0647\u0648\u0649"
        ++ "\u064A\u064B\u064C\u064D\u064E\u064F\u0650\u0651\u0652\u067E\u0679\u0686\u06D5\u06A4"
        ++ "\u06AF\u0688\u0691\x7b|\x7d\u0698\u06D2"),
    ("mac_greek",
      "Ä¹²É³ÖÜ΅àâä΄¨çéèêë£™îï•½‰ôö¦€ùûü†ΓΔΘΛΞΠß®©ΣΪ§≠°·Α±≤≥¥ΒΕΖΗΙΚΜΦΫΨΩάΝ¬ΟΡ≈Τ«»…\u00A0ΥΧΆΈ"
        ++ "œ–―“”‘’÷ΉΊΌΎέήίόΏύαβψδεφγηιξκλμνοπώρστθωςχυζϊϋΐΰ\u00AD"),
    ("mac_iceland",
      "ÄÅÇÉÑÖÜáàâäãåçéèêëíìîïñóòôöõúùûüÝ°¢£§•¶ß®©™´¨≠ÆØ∞±≤≥¥µ∂∑∏π∫ªºΩæø¿¡¬√ƒ≈∆«»…\u00A0ÀÃÕŒ"
        ++ "œ–—“”‘’÷◊ÿŸ⁄€ÐðÞþý·‚„‰ÂÊÁËÈÍÎÏÌÓÔ\uF8FFÒÚÛÙıˆ˜¯˘˙˚¸˝˛ˇ"),
    ("mac_latin2",
      "ÄĀāÉĄÖÜáąČäčĆćéŹźĎíďĒēĖóėôöõúĚěü†°Ę£§•¶ß®©™ę¨≠ģĮįĪ≤≥īĶ∂∑łĻļĽľĹĺŅņŃ¬√ńŇ∆«»…\u00A0ňŐÕő"
        ++ "Ō–—“”‘’÷◊ōŔŕŘ‹›řŖŗŠ‚„šŚśÁŤťÍŽžŪÓÔūŮÚůŰűŲųÝýķŻŁżĢˇ"),
    ("mac_roman",
      "ÄÅÇÉÑÖÜáàâäãåçéèêëíìîïñóòôöõúùûü†°¢£§•¶ß®©™´¨≠ÆØ∞±≤≥¥µ∂∑∏π∫ªºΩæø¿¡¬√ƒ≈∆«»…\u00A0ÀÃÕŒ"
        ++ "œ–—“”‘’÷◊ÿŸ⁄€‹›ﬁﬂ‡·‚„‰ÂÊÁËÈÍÎÏÌÓÔ\uF8FFÒÚÛÙıˆ˜¯˘˙˚¸˝˛ˇ"),
    ("mac_romanian",
      "ÄÅÇÉÑÖÜáàâäãåçéèêëíìîïñóòôöõúùûü†°¢£§•¶ß®©™´¨≠ĂȘ∞±≤≥¥µ∂∑∏π∫ªºΩăș¿¡¬√ƒ≈∆«»…\u00A0ÀÃÕŒ"
        ++ "œ–—“”‘’÷◊ÿŸ⁄€‹›Țț‡·‚„‰ÂÊÁËÈÍÎÏÌÓÔ\uF8FFÒÚÛÙıˆ˜¯˘˙˚¸˝˛ˇ"),
    ("mac_turkish",
      "ÄÅÇÉÑÖÜáàâäãåçéèêëíìîïñóòôöõúùûü†°¢£§•¶ß®©™´¨≠ÆØ∞±≤≥¥µ∂∑∏π∫ªºΩæø¿¡¬√ƒ≈∆«»…\u00A0ÀÃÕŒ"
        ++ "œ–—“”‘’÷◊ÿŸĞğİıŞş‡·‚„‰ÂÊÁËÈÍÎÏÌÓÔ\uF8FFÒÚÛÙ\uF8A0ˆ˜¯˘˙˚¸˝˛ˇ"),
    ("palmos",
      "€\u0081‚ƒ„…†‡ˆ‰Š‹Œ♦♣♥♠‘’“”•–—˜™š\u009Bœ\u009D\u009EŸ\u00A0¡¢£¤¥¦§¨©ª«¬\u00AD®¯°±²³´µ"
        ++ "¶·¸¹º»¼½¾¿ÀÁÂÃÄÅÆÇÈÉÊËÌÍÎÏÐÑÒÓÔÕÖ×ØÙÚÛÜÝÞßàáâãäåæçèéêëìíîïðñòóôõö÷øùúûüýþÿ"),
    ("ptcp154",
      "ҖҒӮғ„…ҶҮҲүҠӢҢҚҺҸҗ‘’“”•–—ҳҷҡӣңқһҹ\u00A0ЎўЈӨҘҰ§Ё©Ә«¬ӯ®Ҝ°ұІіҙө¶·ё№ә»јҪҫҝАБВГДЕЖЗИЙКЛМНО"
        ++ "ПРСТУФХЦЧШЩЪЫЬЭЮЯабвгдежзийклмнопрстуфхцчшщъыьэюя"),
    ("tis_620",
      "\u0080\u0081\u0082\u0083\u0084\u0085\u0086\u0087\u0088\u0089\u008A\u008B\u008C\u008D"
        ++ "\u008E\u008F\u0090\u0091\u0092\u0093\u0094\u0095\u0096\u0097\u0098\u0099\u009A\u009B"
        ++ "\u009C\u009D\u009E\u009F\uFFFFกขฃคฅฆงจฉชซฌญฎฏฐฑฒณดตถทธนบปผฝพฟภมยรฤลฦวศษสหฬอฮฯะ\u0E31"
        ++ "าำ\u0E34\u0E35\u0E36\u0E37\u0E38\u0E39\u0E3A\uFFFF\uFFFF\uFFFF\uFFFF฿เแโใไๅๆ\u0E47"
        ++ "\u0E48\u0E49\u0E4A\u0E4B\u0E4C\u0E4D\u0E4E๏๐๑๒๓๔๕๖๗๘๙๚๛\uFFFF\uFFFF\uFFFF\uFFFF")]

/-- The encodings of one or more bytes per character. All have the characters of ASCII. -/
def multibyteEncodings : List String :=
  ["big5", "big5hkscs", "cp932", "cp949", "cp950", "euc_jis_2004", "euc_jisx0213", "euc_jp",
    "euc_kr", "gb18030", "gb2312", "gbk", "hz", "iso2022_jp", "iso2022_jp_1", "iso2022_jp_2",
    "iso2022_jp_2004", "iso2022_jp_3", "iso2022_jp_ext", "iso2022_kr", "johab", "shift_jis",
    "shift_jis_2004", "shift_jisx0213"]

/-- The characters from U+0080 to U+00FF and the euro sign in the encodings of one or more bytes per
character that have any of them: words `character=bytes` in hexadecimal. -/
def latinCodes : List (List String × String) :=
  [(["big5"],
      "a2=a246 a3=a247 a5=a244 a7=a1b1 b0=a258 b1=a1d3 b7=a150 d7=a1d1 f7=a1d2"),
    (["big5hkscs"],
      "a2=a246 a3=a247 a5=a244 a7=a1b1 a8=c6d8 b0=a258 b1=a1d3 b7=a150 c0=8859 c1=8857 c8=885d
      c9=885b ca=8866 d2=8861 d3=885f d7=a1d1 e0=886a e1=8868 e8=886f e9=886d ea=88a7 ec=8873
      ed=8871 f2=8877 f3=8875 f7=a1d2 f8=c8fb f9=887b fa=8879 fc=88a2"),
    (["cp932"],
      "80=80 a2=8191 a3=8192 a7=8198 a8=814e ac=81ca b0=818b b1=817d b4=814c b6=81f7 d7=817e
      f7=8180"),
    (["cp949", "euc_kr"],
      "a1=a2ae a4=a2b4 a7=a1d7 a8=a1a7 aa=a8a3 ad=a1a9 ae=a2e7 b0=a1c6 b1=a1be b2=a9f7 b3=a9f8
      b4=a2a5 b6=a2d2 b7=a1a4 b8=a2ac b9=a9f6 ba=a8ac bc=a8f9 bd=a8f6 be=a8fa bf=a2af c6=a8a1
      d0=a8a2 d7=a1bf d8=a8aa de=a8ad df=a9ac e6=a9a1 f0=a9a3 f7=a1c0 f8=a9aa fe=a9ad
      20ac=a2e6"),
    (["cp950"],
      "a2=a246 a3=a247 a5=a244 a7=a1b1 af=a1c2 b0=a258 b1=a1d3 b7=a150 d7=a1d1 f7=a1d2
      20ac=a3e1"),
    (["euc_jis_2004", "euc_jisx0213"],
      "a0=a9a2 a1=a9a3 a2=a1f1 a3=a1f2 a4=a9a4 a6=a9a5 a7=a1f8 a8=a1af a9=a9a6 aa=a9a7 ab=a9a8
      ac=a2cc ad=a9a9 ae=a9aa af=a9ab b0=a1eb b1=a1de b2=a9ac b3=a9ad b4=a1ad b6=a2f9 b7=a9ae
      b8=a9af b9=a9b0 ba=a9b1 bb=a9b2 bc=a9b3 bd=a9b4 be=a9b5 bf=a9b6 c0=a9b7 c1=a9b8 c2=a9b9
      c3=a9ba c4=a9bb c5=a9bc c6=a9bd c7=a9be c8=a9bf c9=a9c0 ca=a9c1 cb=a9c2 cc=a9c3 cd=a9c4
      ce=a9c5 cf=a9c6 d0=a9c7 d1=a9c8 d2=a9c9 d3=a9ca d4=a9cb d5=a9cc d6=a9cd d7=a1df d8=a9ce
      d9=a9cf da=a9d0 db=a9d1 dc=a9d2 dd=a9d3 de=a9d4 df=a9d5 e0=a9d6 e1=a9d7 e2=a9d8 e3=a9d9
      e4=a9da e5=a9db e6=a9dc e7=a9dd e8=a9de e9=a9df ea=a9e0 eb=a9e1 ec=a9e2 ed=a9e3 ee=a9e4
      ef=a9e5 f0=a9e6 f1=a9e7 f2=a9e8 f3=a9e9 f4=a9ea f5=a9eb f6=a9ec f7=a1e0 f8=a9ed f9=a9ee
      fa=a9ef fb=a9f0 fc=a9f1 fd=a9f2 fe=a9f3 ff=a9f4 20ac=a9a1"),
    (["euc_jp"],
      "a1=8fa2c2 a2=a1f1 a3=a1f2 a4=8fa2f0 a5=5c a6=8fa2c3 a7=a1f8 a8=a1af a9=8fa2ed aa=8fa2ec
      ac=a2cc ae=8fa2ee af=8fa2b4 b0=a1eb b1=a1de b4=a1ad b6=a2f9 b8=8fa2b1 ba=8fa2eb
      bf=8fa2c4 c0=8faaa2 c1=8faaa1 c2=8faaa4 c3=8faaaa c4=8faaa3 c5=8faaa9 c6=8fa9a1
      c7=8faaae c8=8faab2 c9=8faab1 ca=8faab4 cb=8faab3 cc=8faac0 cd=8faabf ce=8faac2
      cf=8faac1 d1=8faad0 d2=8faad2 d3=8faad1 d4=8faad4 d5=8faad8 d6=8faad3 d7=a1df d8=8fa9ac
      d9=8faae3 da=8faae2 db=8faae5 dc=8faae4 dd=8faaf2 de=8fa9b0 df=8fa9ce e0=8faba2
      e1=8faba1 e2=8faba4 e3=8fabaa e4=8faba3 e5=8faba9 e6=8fa9c1 e7=8fabae e8=8fabb2
      e9=8fabb1 ea=8fabb4 eb=8fabb3 ec=8fabc0 ed=8fabbf ee=8fabc2 ef=8fabc1 f0=8fa9c3
      f1=8fabd0 f2=8fabd2 f3=8fabd1 f4=8fabd4 f5=8fabd8 f6=8fabd3 f7=a1e0 f8=8fa9cc f9=8fabe3
      fa=8fabe2 fb=8fabe5 fc=8fabe4 fd=8fabf2 fe=8fa9d0 ff=8fabf3"),
    (["gb18030"],
      "80=81308130 81=81308131 82=81308132 83=81308133 84=81308134 85=81308135 86=81308136
      87=81308137 88=81308138 89=81308139 8a=81308230 8b=81308231 8c=81308232 8d=81308233
      8e=81308234 8f=81308235 90=81308236 91=81308237 92=81308238 93=81308239 94=81308330
      95=81308331 96=81308332 97=81308333 98=81308334 99=81308335 9a=81308336 9b=81308337
      9c=81308338 9d=81308339 9e=81308430 9f=81308431 a0=81308432 a1=81308433 a2=81308434
      a3=81308435 a4=a1e8 a5=81308436 a6=81308437 a7=a1ec a8=a1a7 a9=81308438 aa=81308439
      ab=81308530 ac=81308531 ad=81308532 ae=81308533 af=81308534 b0=a1e3 b1=a1c0 b2=81308535
      b3=81308536 b4=81308537 b5=81308538 b6=81308539 b7=a1a4 b8=81308630 b9=81308631
      ba=81308632 bb=81308633 bc=81308634 bd=81308635 be=81308636 bf=81308637 c0=81308638
      c1=81308639 c2=81308730 c3=81308731 c4=81308732 c5=81308733 c6=81308734 c7=81308735
      c8=81308736 c9=81308737 ca=81308738 cb=81308739 cc=81308830 cd=81308831 ce=81308832
      cf=81308833 d0=81308834 d1=81308835 d2=81308836 d3=81308837 d4=81308838 d5=81308839
      d6=81308930 d7=a1c1 d8=81308931 d9=81308932 da=81308933 db=81308934 dc=81308935
      dd=81308936 de=81308937 df=81308938 e0=a8a4 e1=a8a2 e2=81308939 e3=81308a30 e4=81308a31
      e5=81308a32 e6=81308a33 e7=81308a34 e8=a8a8 e9=a8a6 ea=a8ba eb=81308a35 ec=a8ac ed=a8aa
      ee=81308a36 ef=81308a37 f0=81308a38 f1=81308a39 f2=a8b0 f3=a8ae f4=81308b30 f5=81308b31
      f6=81308b32 f7=a1c2 f8=81308b33 f9=a8b4 fa=a8b2 fb=81308b34 fc=a8b9 fd=81308b35
      fe=81308b36 ff=81308b37 20ac=a2e3"),
    (["gb2312"],
      "a4=a1e8 a7=a1ec a8=a1a7 b0=a1e3 b1=a1c0 d7=a1c1 e0=a8a4 e1=a8a2 e8=a8a8 e9=a8a6 ea=a8ba
      ec=a8ac ed=a8aa f2=a8b0 f3=a8ae f7=a1c2 f9=a8b4 fa=a8b2 fc=a8b9"),
    (["gbk"],
      "a4=a1e8 a7=a1ec a8=a1a7 b0=a1e3 b1=a1c0 b7=a1a4 d7=a1c1 e0=a8a4 e1=a8a2 e8=a8a8 e9=a8a6
      ea=a8ba ec=a8ac ed=a8aa f2=a8b0 f3=a8ae f7=a1c2 f9=a8b4 fa=a8b2 fc=a8b9"),
    (["johab"],
      "a1=d9ae a4=d9b4 a7=d967 a8=d937 aa=dca3 ad=d939 ae=d9e7 b0=d956 b1=d94e b2=dd99 b3=dd9a
      b4=d9a5 b6=d9d2 b7=d934 b8=d9ac b9=dd98 ba=dcac bc=dcf9 bd=dcf6 be=dcfa bf=d9af c6=dca1
      d0=dca2 d7=d94f d8=dcaa de=dcad df=dd3c e6=dd31 f0=dd33 f7=d950 f8=dd3a fe=dd3d
      20ac=d9e6"),
    (["shift_jis"],
      "a2=8191 a3=8192 a5=5c a7=8198 a8=814e ac=81ca b0=818b b1=817d b4=814c b6=81f7 d7=817e
      f7=8180"),
    (["shift_jis_2004", "shift_jisx0213"],
      "a0=8541 a1=8542 a2=8191 a3=8192 a4=8543 a5=5c a6=8544 a7=8198 a8=814e a9=8545 aa=8546
      ab=8547 ac=81ca ad=8548 ae=8549 af=854a b0=818b b1=817d b2=854b b3=854c b4=814c b6=81f7
      b7=854d b8=854e b9=854f ba=8550 bb=8551 bc=8552 bd=8553 be=8554 bf=8555 c0=8556 c1=8557
      c2=8558 c3=8559 c4=855a c5=855b c6=855c c7=855d c8=855e c9=855f ca=8560 cb=8561 cc=8562
      cd=8563 ce=8564 cf=8565 d0=8566 d1=8567 d2=8568 d3=8569 d4=856a d5=856b d6=856c d7=817e
      d8=856d d9=856e da=856f db=8570 dc=8571 dd=8572 de=8573 df=8574 e0=8575 e1=8576 e2=8577
      e3=8578 e4=8579 e5=857a e6=857b e7=857c e8=857d e9=857e ea=8580 eb=8581 ec=8582 ed=8583
      ee=8584 ef=8585 f0=8586 f1=8587 f2=8588 f3=8589 f4=858a f5=858b f6=858c f7=8180 f8=858d
      f9=858e fa=858f fb=8590 fc=8591 fd=8592 fe=8593 ff=8594 20ac=8540")]

/-- The transformations that have names among the encodings but do not encode texts. -/
def byteTransforms : List String :=
  ["base64_codec", "bz2_codec", "hex_codec", "quopri_codec", "rot_13", "uu_codec", "zlib_codec"]

end DiagramForge.Text
