import Telematics.Text.CodePage

/-!
The code pages of ISO 8859, and the Thai standard that one of them follows.
-/

namespace Telematics.Text

/-- Latin alphabet of Central Europe. -/
def latin2 : CodePage where
  name := "iso8859_2"
  aliases := ["csisolatin2", "iso_8859_2", "iso_8859_2_1987", "iso_ir_101", "l2", "latin2"]
  upper := upperControls ++
    "\xa0Ą˘Ł¤ĽŚ§¨ŠŞŤŹ\xadŽŻ°ą˛ł´ľśˇ¸šşťź˝žżŔÁÂĂÄĹĆÇČÉĘËĚÍÎĎĐŃŇÓÔŐÖ×ŘŮÚŰÜÝŢßŕáâăäĺćçčéęë" ++
    "ěíîďđńňóôőö÷řůúűüýţ˙"

/-- Latin alphabet of Southern Europe. -/
def latin3 : CodePage where
  name := "iso8859_3"
  aliases := ["csisolatin3", "iso_8859_3", "iso_8859_3_1988", "iso_ir_109", "l3", "latin3"]
  upper := upperControls ++
    "\xa0Ħ˘£¤\ufffeĤ§¨İŞĞĴ\xad\ufffeŻ°ħ²³´µĥ·¸ışğĵ½\ufffeżÀÁÂ\ufffeÄĊĈÇÈÉÊËÌÍÎÏ\ufffeÑÒ" ++
    "ÓÔĠÖ×ĜÙÚÛÜŬŜßàáâ\ufffeäċĉçèéêëìíîï\ufffeñòóôġö÷ĝùúûüŭŝ˙"

/-- Latin alphabet of Northern Europe. -/
def latin4 : CodePage where
  name := "iso8859_4"
  aliases := ["csisolatin4", "iso_8859_4", "iso_8859_4_1988", "iso_ir_110", "l4", "latin4"]
  upper := upperControls ++
    "\xa0ĄĸŖ¤ĨĻ§¨ŠĒĢŦ\xadŽ¯°ą˛ŗ´ĩļˇ¸šēģŧŊžŋĀÁÂÃÄÅÆĮČÉĘËĖÍÎĪĐŅŌĶÔÕÖ×ØŲÚÛÜŨŪßāáâãäåæįčéęë" ++
    "ėíîīđņōķôõö÷øųúûüũū˙"

/-- Cyrillic. -/
def isoCyrillic : CodePage where
  name := "iso8859_5"
  aliases := ["csisolatincyrillic", "cyrillic", "iso_8859_5", "iso_8859_5_1988", "iso_ir_144"]
  upper := upperControls ++
    "\xa0ЁЂЃЄЅІЇЈЉЊЋЌ\xadЎЏАБВГДЕЖЗИЙКЛМНОПРСТУФХЦЧШЩЪЫЬЭЮЯабвгдежзийклмнопрстуфхцчшщъы" ++
    "ьэюя№ёђѓєѕіїјљњћќ§ўџ"

/-- Arabic. -/
def isoArabic : CodePage where
  name := "iso8859_6"
  aliases := ["arabic", "asmo_708", "csisolatinarabic", "ecma_114", "iso_8859_6",
    "iso_8859_6_1987", "iso_ir_127"]
  upper := upperControls ++
    "\xa0\ufffe\ufffe\ufffe¤\ufffe\ufffe\ufffe\ufffe\ufffe\ufffe\ufffe،\xad\ufffe\ufffe" ++
    "\ufffe\ufffe\ufffe\ufffe\ufffe\ufffe\ufffe\ufffe\ufffe\ufffe\ufffe\u061b\ufffe" ++
    "\ufffe\ufffe\u061f\ufffe\u0621\u0622\u0623\u0624\u0625\u0626\u0627\u0628\u0629" ++
    "\u062a\u062b\u062c\u062d\u062e\u062f\u0630\u0631\u0632\u0633\u0634\u0635\u0636" ++
    "\u0637\u0638\u0639\u063a\ufffe\ufffe\ufffe\ufffe\ufffe\u0640\u0641\u0642\u0643" ++
    "\u0644\u0645\u0646\u0647\u0648\u0649\u064a\u064b\u064c\u064d\u064e\u064f\u0650" ++
    "\u0651\u0652\ufffe\ufffe\ufffe\ufffe\ufffe\ufffe\ufffe\ufffe\ufffe\ufffe\ufffe" ++
    "\ufffe\ufffe"

/-- Greek. -/
def isoGreek : CodePage where
  name := "iso8859_7"
  aliases := ["csisolatingreek", "ecma_118", "elot_928", "greek", "greek8", "iso_8859_7",
    "iso_8859_7_1987", "iso_ir_126"]
  upper := upperControls ++
    "\xa0‘’£€₯¦§¨©ͺ«¬\xad\ufffe―°±²³΄΅Ά·ΈΉΊ»Ό½ΎΏΐΑΒΓΔΕΖΗΘΙΚΛΜΝΞΟΠΡ\ufffeΣΤΥΦΧΨΩΪΫάέήίΰα" ++
    "βγδεζηθικλμνξοπρςστυφχψωϊϋόύώ\ufffe"

/-- Hebrew. -/
def isoHebrew : CodePage where
  name := "iso8859_8"
  aliases := ["csisolatinhebrew", "hebrew", "iso_8859_8", "iso_8859_8_1988", "iso_ir_138"]
  upper := upperControls ++
    "\xa0\ufffe¢£¤¥¦§¨©×«¬\xad®¯°±²³´µ¶·¸¹÷»¼½¾\ufffe\ufffe\ufffe\ufffe\ufffe\ufffe" ++
    "\ufffe\ufffe\ufffe\ufffe\ufffe\ufffe\ufffe\ufffe\ufffe\ufffe\ufffe\ufffe\ufffe" ++
    "\ufffe\ufffe\ufffe\ufffe\ufffe\ufffe\ufffe\ufffe\ufffe\ufffe\ufffe\ufffe\ufffe‗" ++
    "\u05d0\u05d1\u05d2\u05d3\u05d4\u05d5\u05d6\u05d7\u05d8\u05d9\u05da\u05db\u05dc" ++
    "\u05dd\u05de\u05df\u05e0\u05e1\u05e2\u05e3\u05e4\u05e5\u05e6\u05e7\u05e8\u05e9" ++
    "\u05ea\ufffe\ufffe\u200e\u200f\ufffe"

/-- Latin alphabet with the Turkish letters. -/
def latin5 : CodePage where
  name := "iso8859_9"
  aliases := ["csisolatin5", "iso_8859_9", "iso_8859_9_1989", "iso_ir_148", "l5", "latin5"]
  upper := upperControls ++
    "\xa0¡¢£¤¥¦§¨©ª«¬\xad®¯°±²³´µ¶·¸¹º»¼½¾¿ÀÁÂÃÄÅÆÇÈÉÊËÌÍÎÏĞÑÒÓÔÕÖ×ØÙÚÛÜİŞßàáâãäåæçèéêë" ++
    "ìíîïğñòóôõö÷øùúûüışÿ"

/-- Latin alphabet of the Nordic countries. -/
def latin6 : CodePage where
  name := "iso8859_10"
  aliases := ["csisolatin6", "iso_8859_10", "iso_8859_10_1992", "iso_ir_157", "l6", "latin6"]
  upper := upperControls ++
    "\xa0ĄĒĢĪĨĶ§ĻĐŠŦŽ\xadŪŊ°ąēģīĩķ·ļđšŧž―ūŋĀÁÂÃÄÅÆĮČÉĘËĖÍÎÏÐŅŌÓÔÕÖŨØŲÚÛÜÝÞßāáâãäåæįčéęë" ++
    "ėíîïðņōóôõöũøųúûüýþĸ"

/-- Thai. -/
def isoThai : CodePage where
  name := "iso8859_11"
  aliases := ["iso_8859_11", "iso_8859_11_2001", "thai"]
  upper := upperControls ++
    "\xa0กขฃคฅฆงจฉชซฌญฎฏฐฑฒณดตถทธนบปผฝพฟภมยรฤลฦวศษสหฬอฮฯะ\u0e31าำ\u0e34\u0e35\u0e36" ++
    "\u0e37\u0e38\u0e39\u0e3a\ufffe\ufffe\ufffe\ufffe฿เแโใไๅๆ\u0e47\u0e48\u0e49\u0e4a" ++
    "\u0e4b\u0e4c\u0e4d\u0e4e๏๐๑๒๓๔๕๖๗๘๙๚๛\ufffe\ufffe\ufffe\ufffe"

/-- Latin alphabet of the Baltic countries. -/
def latin7 : CodePage where
  name := "iso8859_13"
  aliases := ["iso_8859_13", "l7", "latin7"]
  upper := upperControls ++
    "\xa0”¢£¤„¦§Ø©Ŗ«¬\xad®Æ°±²³“µ¶·ø¹ŗ»¼½¾æĄĮĀĆÄÅĘĒČÉŹĖĢĶĪĻŠŃŅÓŌÕÖ×ŲŁŚŪÜŻŽßąįāćäåęēčéźė" ++
    "ģķīļšńņóōõö÷ųłśūüżž’"

/-- Latin alphabet with the Celtic letters. -/
def latin8 : CodePage where
  name := "iso8859_14"
  aliases := ["iso_8859_14", "iso_8859_14_1998", "iso_celtic", "iso_ir_199", "l8", "latin8"]
  upper := upperControls ++
    "\xa0Ḃḃ£ĊċḊ§Ẁ©ẂḋỲ\xad®ŸḞḟĠġṀṁ¶ṖẁṗẃṠỳẄẅṡÀÁÂÃÄÅÆÇÈÉÊËÌÍÎÏŴÑÒÓÔÕÖṪØÙÚÛÜÝŶßàáâãäåæçèéêë" ++
    "ìíîïŵñòóôõöṫøùúûüýŷÿ"

/-- Latin alphabet of Western Europe with the euro sign. -/
def latin9 : CodePage where
  name := "iso8859_15"
  aliases := ["iso_8859_15", "l9", "latin9"]
  upper := upperControls ++
    "\xa0¡¢£€¥Š§š©ª«¬\xad®¯°±²³Žµ¶·ž¹º»ŒœŸ¿ÀÁÂÃÄÅÆÇÈÉÊËÌÍÎÏÐÑÒÓÔÕÖ×ØÙÚÛÜÝÞßàáâãäåæçèéêë" ++
    "ìíîïðñòóôõö÷øùúûüýþÿ"

/-- Latin alphabet of South-Eastern Europe. -/
def latin10 : CodePage where
  name := "iso8859_16"
  aliases := ["iso_8859_16", "iso_8859_16_2001", "iso_ir_226", "l10", "latin10"]
  upper := upperControls ++
    "\xa0ĄąŁ€„Š§š©Ș«Ź\xadźŻ°±ČłŽ”¶·žčș»ŒœŸżÀÁÂĂÄĆÆÇÈÉÊËÌÍÎÏĐŃÒÓÔŐÖŚŰÙÚÛÜĘȚßàáâăäćæçèéêë" ++
    "ìíîïđńòóôőöśűùúûüęțÿ"

/-- Thai as in the national standard. -/
def thai620 : CodePage where
  name := "tis_620"
  aliases := ["iso_ir_166", "tis620", "tis_620_0", "tis_620_2529_0", "tis_620_2529_1"]
  upper := upperControls ++
    "\ufffeกขฃคฅฆงจฉชซฌญฎฏฐฑฒณดตถทธนบปผฝพฟภมยรฤลฦวศษสหฬอฮฯะ\u0e31าำ\u0e34\u0e35\u0e36" ++
    "\u0e37\u0e38\u0e39\u0e3a\ufffe\ufffe\ufffe\ufffe฿เแโใไๅๆ\u0e47\u0e48\u0e49\u0e4a" ++
    "\u0e4b\u0e4c\u0e4d\u0e4e๏๐๑๒๓๔๕๖๗๘๙๚๛\ufffe\ufffe\ufffe\ufffe"

/-- The code pages of this family. -/
def isoPages : List CodePage := [
  latin2, latin3, latin4, isoCyrillic, isoArabic, isoGreek, isoHebrew, latin5, latin6, isoThai,
  latin7, latin8, latin9, latin10, thai620]

end Telematics.Text
