import Telematics.Text.CodePage

/-!
The code pages of Windows, by their numbers, and those of Mac OS.
-/

namespace Telematics.Text

/-- Thai. -/
def windows874 : CodePage where
  name := "cp874"
  aliases := []
  upper := "€\ufffe\ufffe\ufffe\ufffe…\ufffe\ufffe\ufffe\ufffe\ufffe\ufffe\ufffe\ufffe\ufffe" ++
    "\ufffe\ufffe‘’“”•–—\ufffe\ufffe\ufffe\ufffe\ufffe\ufffe\ufffe\ufffe\xa0กขฃคฅฆงจฉชซ" ++
    "ฌญฎฏฐฑฒณดตถทธนบปผฝพฟภมยรฤลฦวศษสหฬอฮฯะ\u0e31าำ\u0e34\u0e35\u0e36\u0e37\u0e38\u0e39" ++
    "\u0e3a\ufffe\ufffe\ufffe\ufffe฿เแโใไๅๆ\u0e47\u0e48\u0e49\u0e4a\u0e4b\u0e4c\u0e4d" ++
    "\u0e4e๏๐๑๒๓๔๕๖๗๘๙๚๛\ufffe\ufffe\ufffe\ufffe"

/-- Central Europe. -/
def windows1250 : CodePage where
  name := "cp1250"
  aliases := ["1250", "windows_1250"]
  upper := "€\ufffe‚\ufffe„…†‡\ufffe‰Š‹ŚŤŽŹ\ufffe‘’“”•–—\ufffe™š›śťžź\xa0ˇ˘Ł¤Ą¦§¨©Ş«¬\xad®Ż°±˛" ++
    "ł´µ¶·¸ąş»Ľ˝ľżŔÁÂĂÄĹĆÇČÉĘËĚÍÎĎĐŃŇÓÔŐÖ×ŘŮÚŰÜÝŢßŕáâăäĺćçčéęëěíîďđńňóôőö÷řůúűüýţ˙"

/-- Cyrillic. -/
def windows1251 : CodePage where
  name := "cp1251"
  aliases := ["1251", "windows_1251"]
  upper := "ЂЃ‚ѓ„…†‡€‰Љ‹ЊЌЋЏђ‘’“”•–—\ufffe™љ›њќћџ\xa0ЎўЈ¤Ґ¦§Ё©Є«¬\xad®Ї°±Ііґµ¶·ё№є»јЅѕїАБВГДЕЖ" ++
    "ЗИЙКЛМНОПРСТУФХЦЧШЩЪЫЬЭЮЯабвгдежзийклмнопрстуфхцчшщъыьэюя"

/-- Western Europe. -/
def windows1252 : CodePage where
  name := "cp1252"
  aliases := ["1252", "windows_1252"]
  upper := "€\ufffe‚ƒ„…†‡ˆ‰Š‹Œ\ufffeŽ\ufffe\ufffe‘’“”•–—˜™š›œ\ufffežŸ\xa0¡¢£¤¥¦§¨©ª«¬\xad®¯°±²" ++
    "³´µ¶·¸¹º»¼½¾¿ÀÁÂÃÄÅÆÇÈÉÊËÌÍÎÏÐÑÒÓÔÕÖ×ØÙÚÛÜÝÞßàáâãäåæçèéêëìíîïðñòóôõö÷øùúûüýþÿ"

/-- Greek. -/
def windows1253 : CodePage where
  name := "cp1253"
  aliases := ["1253", "windows_1253"]
  upper := "€\ufffe‚ƒ„…†‡\ufffe‰\ufffe‹\ufffe\ufffe\ufffe\ufffe\ufffe‘’“”•–—\ufffe™\ufffe›" ++
    "\ufffe\ufffe\ufffe\ufffe\xa0΅Ά£¤¥¦§¨©\ufffe«¬\xad®―°±²³΄µ¶·ΈΉΊ»Ό½ΎΏΐΑΒΓΔΕΖΗΘΙΚΛΜΝΞ" ++
    "ΟΠΡ\ufffeΣΤΥΦΧΨΩΪΫάέήίΰαβγδεζηθικλμνξοπρςστυφχψωϊϋόύώ\ufffe"

/-- Turkish. -/
def windows1254 : CodePage where
  name := "cp1254"
  aliases := ["1254", "windows_1254"]
  upper := "€\ufffe‚ƒ„…†‡ˆ‰Š‹Œ\ufffe\ufffe\ufffe\ufffe‘’“”•–—˜™š›œ\ufffe\ufffeŸ\xa0¡¢£¤¥¦§¨©ª«" ++
    "¬\xad®¯°±²³´µ¶·¸¹º»¼½¾¿ÀÁÂÃÄÅÆÇÈÉÊËÌÍÎÏĞÑÒÓÔÕÖ×ØÙÚÛÜİŞßàáâãäåæçèéêëìíîïğñòóôõö÷øùú" ++
    "ûüışÿ"

/-- Hebrew. -/
def windows1255 : CodePage where
  name := "cp1255"
  aliases := ["1255", "windows_1255"]
  upper := "€\ufffe‚ƒ„…†‡ˆ‰\ufffe‹\ufffe\ufffe\ufffe\ufffe\ufffe‘’“”•–—˜™\ufffe›\ufffe\ufffe" ++
    "\ufffe\ufffe\xa0¡¢£₪¥¦§¨©×«¬\xad®¯°±²³´µ¶·¸¹÷»¼½¾¿\u05b0\u05b1\u05b2\u05b3\u05b4" ++
    "\u05b5\u05b6\u05b7\u05b8\u05b9\ufffe\u05bb\u05bc\u05bd\u05be\u05bf\u05c0\u05c1" ++
    "\u05c2\u05c3\u05f0\u05f1\u05f2\u05f3\u05f4\ufffe\ufffe\ufffe\ufffe\ufffe\ufffe" ++
    "\ufffe\u05d0\u05d1\u05d2\u05d3\u05d4\u05d5\u05d6\u05d7\u05d8\u05d9\u05da\u05db" ++
    "\u05dc\u05dd\u05de\u05df\u05e0\u05e1\u05e2\u05e3\u05e4\u05e5\u05e6\u05e7\u05e8" ++
    "\u05e9\u05ea\ufffe\ufffe\u200e\u200f\ufffe"

/-- Arabic. -/
def windows1256 : CodePage where
  name := "cp1256"
  aliases := ["1256", "windows_1256"]
  upper := "€\u067e‚ƒ„…†‡ˆ‰\u0679‹Œ\u0686\u0698\u0688\u06af‘’“”•–—\u06a9™\u0691›œ\u200c\u200d" ++
    "\u06ba\xa0،¢£¤¥¦§¨©\u06be«¬\xad®¯°±²³´µ¶·¸¹\u061b»¼½¾\u061f\u06c1\u0621\u0622" ++
    "\u0623\u0624\u0625\u0626\u0627\u0628\u0629\u062a\u062b\u062c\u062d\u062e\u062f" ++
    "\u0630\u0631\u0632\u0633\u0634\u0635\u0636×\u0637\u0638\u0639\u063a\u0640\u0641" ++
    "\u0642\u0643à\u0644â\u0645\u0646\u0647\u0648çèéêë\u0649\u064aîï\u064b\u064c\u064d" ++
    "\u064eô\u064f\u0650÷\u0651ù\u0652ûü\u200e\u200f\u06d2"

/-- Baltic. -/
def windows1257 : CodePage where
  name := "cp1257"
  aliases := ["1257", "windows_1257"]
  upper := "€\ufffe‚\ufffe„…†‡\ufffe‰\ufffe‹\ufffe¨ˇ¸\ufffe‘’“”•–—\ufffe™\ufffe›\ufffe¯˛\ufffe" ++
    "\xa0\ufffe¢£¤\ufffe¦§Ø©Ŗ«¬\xad®Æ°±²³´µ¶·ø¹ŗ»¼½¾æĄĮĀĆÄÅĘĒČÉŹĖĢĶĪĻŠŃŅÓŌÕÖ×ŲŁŚŪÜŻŽßąį" ++
    "āćäåęēčéźėģķīļšńņóōõö÷ųłśūüżž˙"

/-- Vietnamese. -/
def windows1258 : CodePage where
  name := "cp1258"
  aliases := ["1258", "windows_1258"]
  upper := "€\ufffe‚ƒ„…†‡ˆ‰\ufffe‹Œ\ufffe\ufffe\ufffe\ufffe‘’“”•–—˜™\ufffe›œ\ufffe\ufffeŸ\xa0¡" ++
    "¢£¤¥¦§¨©ª«¬\xad®¯°±²³´µ¶·¸¹º»¼½¾¿ÀÁÂĂÄÅÆÇÈÉÊË\u0300ÍÎÏĐÑ\u0309ÓÔƠÖ×ØÙÚÛÜƯ\u0303ßàá" ++
    "âăäåæçèéêë\u0301íîïđñ\u0323óôơö÷øùúûüư₫ÿ"

/-- The code pages of this family. -/
def windowsPages : List CodePage := [
  windows874, windows1250, windows1251, windows1252, windows1253, windows1254, windows1255,
  windows1256, windows1257, windows1258]

/-- Arabic. -/
def macArabic : CodePage where
  name := "mac_arabic"
  aliases := []
  upper := "Ä\xa0ÇÉÑÖÜáàâä\u06ba«çéèêëí…îïñó»ôö÷úùûü !\"#$٪&'()*+،-./\u0660\u0661\u0662\u0663" ++
    "\u0664\u0665\u0666\u0667\u0668\u0669:\u061b<=>\u061f❊\u0621\u0622\u0623\u0624" ++
    "\u0625\u0626\u0627\u0628\u0629\u062a\u062b\u062c\u062d\u062e\u062f\u0630\u0631" ++
    "\u0632\u0633\u0634\u0635\u0636\u0637\u0638\u0639\u063a[\\]^_\u0640\u0641\u0642" ++
    "\u0643\u0644\u0645\u0646\u0647\u0648\u0649\u064a\u064b\u064c\u064d\u064e\u064f" ++
    "\u0650\u0651\u0652\u067e\u0679\u0686\u06d5\u06a4\u06af\u0688\u0691\x7b|\x7d\u0698" ++
    "\u06d2"

/-- Croatian. -/
def macCroatian : CodePage where
  name := "mac_croatian"
  aliases := []
  upper := "ÄÅÇÉÑÖÜáàâäãåçéèêëíìîïñóòôöõúùûü†°¢£§•¶ß®Š™´¨≠ŽØ∞±≤≥∆µ∂∑∏š∫ªºΩžø¿¡¬√ƒ≈Ć«Č…\xa0ÀÃÕŒ" ++
    "œĐ—“”‘’÷◊\uf8ff©⁄€‹›Æ»–·‚„‰ÂćÁčÈÍÎÏÌÓÔđÒÚÛÙıˆ˜¯πË˚¸Êæˇ"

/-- Cyrillic. -/
def macCyrillic : CodePage where
  name := "mac_cyrillic"
  aliases := ["maccyrillic"]
  upper := "АБВГДЕЖЗИЙКЛМНОПРСТУФХЦЧШЩЪЫЬЭЮЯ†°Ґ£§•¶І®©™Ђђ≠Ѓѓ∞±≤≥іµґЈЄєЇїЉљЊњјЅ¬√ƒ≈∆«»…\xa0ЋћЌќ" ++
    "ѕ–—“”‘’÷„ЎўЏџ№Ёёяабвгдежзийклмнопрстуфхцчшщъыьэю€"

/-- Farsi. -/
def macFarsi : CodePage where
  name := "mac_farsi"
  aliases := []
  upper := "Ä\xa0ÇÉÑÖÜáàâä\u06ba«çéèêëí…îïñó»ôö÷úùûü !\"#$٪&'()*+،-./۰۱۲۳۴۵۶۷۸۹:\u061b<=>" ++
    "\u061f❊\u0621\u0622\u0623\u0624\u0625\u0626\u0627\u0628\u0629\u062a\u062b\u062c" ++
    "\u062d\u062e\u062f\u0630\u0631\u0632\u0633\u0634\u0635\u0636\u0637\u0638\u0639" ++
    "\u063a[\\]^_\u0640\u0641\u0642\u0643\u0644\u0645\u0646\u0647\u0648\u0649\u064a" ++
    "\u064b\u064c\u064d\u064e\u064f\u0650\u0651\u0652\u067e\u0679\u0686\u06d5\u06a4" ++
    "\u06af\u0688\u0691\x7b|\x7d\u0698\u06d2"

/-- Greek. -/
def macGreek : CodePage where
  name := "mac_greek"
  aliases := ["macgreek"]
  upper := "Ä¹²É³ÖÜ΅àâä΄¨çéèêë£™îï•½‰ôö¦€ùûü†ΓΔΘΛΞΠß®©ΣΪ§≠°·Α±≤≥¥ΒΕΖΗΙΚΜΦΫΨΩάΝ¬ΟΡ≈Τ«»…\xa0ΥΧΆΈ" ++
    "œ–―“”‘’÷ΉΊΌΎέήίόΏύαβψδεφγηιξκλμνοπώρστθωςχυζϊϋΐΰ\xad"

/-- Icelandic. -/
def macIceland : CodePage where
  name := "mac_iceland"
  aliases := ["maciceland"]
  upper := "ÄÅÇÉÑÖÜáàâäãåçéèêëíìîïñóòôöõúùûüÝ°¢£§•¶ß®©™´¨≠ÆØ∞±≤≥¥µ∂∑∏π∫ªºΩæø¿¡¬√ƒ≈∆«»…\xa0ÀÃÕŒ" ++
    "œ–—“”‘’÷◊ÿŸ⁄€ÐðÞþý·‚„‰ÂÊÁËÈÍÎÏÌÓÔ\uf8ffÒÚÛÙıˆ˜¯˘˙˚¸˝˛ˇ"

/-- Central Europe. -/
def macLatin2 : CodePage where
  name := "mac_latin2"
  aliases := ["mac_centeuro", "maccentraleurope", "maclatin2"]
  upper := "ÄĀāÉĄÖÜáąČäčĆćéŹźĎíďĒēĖóėôöõúĚěü†°Ę£§•¶ß®©™ę¨≠ģĮįĪ≤≥īĶ∂∑łĻļĽľĹĺŅņŃ¬√ńŇ∆«»…\xa0ňŐÕő" ++
    "Ō–—“”‘’÷◊ōŔŕŘ‹›řŖŗŠ‚„šŚśÁŤťÍŽžŪÓÔūŮÚůŰűŲųÝýķŻŁżĢˇ"

/-- Western Europe. -/
def macRoman : CodePage where
  name := "mac_roman"
  aliases := ["macintosh", "macroman"]
  upper := "ÄÅÇÉÑÖÜáàâäãåçéèêëíìîïñóòôöõúùûü†°¢£§•¶ß®©™´¨≠ÆØ∞±≤≥¥µ∂∑∏π∫ªºΩæø¿¡¬√ƒ≈∆«»…\xa0ÀÃÕŒ" ++
    "œ–—“”‘’÷◊ÿŸ⁄€‹›ﬁﬂ‡·‚„‰ÂÊÁËÈÍÎÏÌÓÔ\uf8ffÒÚÛÙıˆ˜¯˘˙˚¸˝˛ˇ"

/-- Romanian. -/
def macRomanian : CodePage where
  name := "mac_romanian"
  aliases := []
  upper := "ÄÅÇÉÑÖÜáàâäãåçéèêëíìîïñóòôöõúùûü†°¢£§•¶ß®©™´¨≠ĂȘ∞±≤≥¥µ∂∑∏π∫ªºΩăș¿¡¬√ƒ≈∆«»…\xa0ÀÃÕŒ" ++
    "œ–—“”‘’÷◊ÿŸ⁄€‹›Țț‡·‚„‰ÂÊÁËÈÍÎÏÌÓÔ\uf8ffÒÚÛÙıˆ˜¯˘˙˚¸˝˛ˇ"

/-- Turkish. -/
def macTurkish : CodePage where
  name := "mac_turkish"
  aliases := ["macturkish"]
  upper := "ÄÅÇÉÑÖÜáàâäãåçéèêëíìîïñóòôöõúùûü†°¢£§•¶ß®©™´¨≠ÆØ∞±≤≥¥µ∂∑∏π∫ªºΩæø¿¡¬√ƒ≈∆«»…\xa0ÀÃÕŒ" ++
    "œ–—“”‘’÷◊ÿŸĞğİıŞş‡·‚„‰ÂÊÁËÈÍÎÏÌÓÔ\uf8ffÒÚÛÙ\uf8a0ˆ˜¯˘˙˚¸˝˛ˇ"

/-- The code pages of this family. -/
def macPages : List CodePage := [
  macArabic, macCroatian, macCyrillic, macFarsi, macGreek, macIceland, macLatin2, macRoman,
  macRomanian, macTurkish]

end Telematics.Text
