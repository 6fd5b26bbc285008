import Telematics.Text.CodePage

/-!
Code pages of single countries and makers.
-/

namespace Telematics.Text

/-- Western Europe, of printers. -/
def roman8 : CodePage where
  name := "hp_roman8"
  aliases := ["cp1051", "csHPRoman8", "ibm1051", "r8", "roman8"]
  upper := upperControls ++
    "\xa0ÀÂÈÊËÎÏ´ˋˆ¨˜ÙÛ₤¯Ýý°ÇçÑñ¡¿¤£¥§ƒ¢âêôûáéóúàèòùäëöüÅîØÆåíøæÄìÖÜÉïßÔÁÃãÐðÍÌÓÒÕõŠšÚŸ" ++
    "ÿÞþ·µ¶¾—¼½ªº«■»±\ufffe"

/-- Cyrillic of Russia. -/
def koi8Russian : CodePage where
  name := "koi8_r"
  aliases := ["cskoi8r"]
  upper := "─│┌┐└┘├┤┬┴┼▀▄█▌▐░▒▓⌠■∙√≈≤≥\xa0⌡°²·÷═║╒ё╓╔╕╖╗╘╙╚╛╜╝╞╟╠╡Ё╢╣╤╥╦╧╨╩╪╫╬©юабцдефгхийклмн" ++
    "опярстужвьызшэщчъЮАБЦДЕФГХИЙКЛМНОПЯРСТУЖВЬЫЗШЭЩЧЪ"

/-- Cyrillic of Tajikistan. -/
def koi8Tajik : CodePage where
  name := "koi8_t"
  aliases := []
  upper := "қғ‚Ғ„…†‡\ufffe‰ҳ‹ҲҷҶ\ufffeҚ‘’“”•–—\ufffe™\ufffe›\ufffe\ufffe\ufffe\ufffe\ufffeӯӮё¤" ++
    "ӣ¦§\ufffe\ufffe\ufffe«¬\xad®\ufffe°±²Ё\ufffeӢ¶·\ufffe№\ufffe»\ufffe\ufffe\ufffe©юа" ++
    "бцдефгхийклмнопярстужвьызшэщчъЮАБЦДЕФГХИЙКЛМНОПЯРСТУЖВЬЫЗШЭЩЧЪ"

/-- Cyrillic of Ukraine. -/
def koi8Ukrainian : CodePage where
  name := "koi8_u"
  aliases := []
  upper := "─│┌┐└┘├┤┬┴┼▀▄█▌▐░▒▓⌠■∙√≈≤≥\xa0⌡°²·÷═║╒ёє╔ії╗╘╙╚╛ґ╝╞╟╠╡ЁЄ╣ІЇ╦╧╨╩╪Ґ╬©юабцдефгхийклмн" ++
    "опярстужвьызшэщчъЮАБЦДЕФГХИЙКЛМНОПЯРСТУЖВЬЫЗШЭЩЧЪ"

/-- Cyrillic of Kazakhstan. -/
def kazakh : CodePage where
  name := "kz1048"
  aliases := ["kz_1048", "rk1048", "strk1048_2002"]
  upper := "ЂЃ‚ѓ„…†‡€‰Љ‹ЊҚҺЏђ‘’“”•–—\ufffe™љ›њқһџ\xa0ҰұӘ¤Ө¦§Ё©Ғ«¬\xad®Ү°±Ііөµ¶·ё№ғ»әҢңүАБВГДЕЖ" ++
    "ЗИЙКЛМНОПРСТУФХЦЧШЩЪЫЬЭЮЯабвгдежзийклмнопрстуфхцчшщъыьэюя"

/-- Western Europe, of handhelds. -/
def palm : CodePage where
  name := "palmos"
  aliases := []
  upper := "€\x81‚ƒ„…†‡ˆ‰Š‹Œ♦♣♥♠‘’“”•–—˜™š\x9bœ\x9d\x9eŸ\xa0¡¢£¤¥¦§¨©ª«¬\xad®¯°±²³´µ¶·¸¹º»¼½¾¿" ++
    "ÀÁÂÃÄÅÆÇÈÉÊËÌÍÎÏÐÑÒÓÔÕÖ×ØÙÚÛÜÝÞßàáâãäåæçèéêëìíîïðñòóôõö÷øùúûüýþÿ"

/-- Cyrillic of Asia. -/
def asianCyrillic : CodePage where
  name := "ptcp154"
  aliases := ["cp154", "csptcp154", "cyrillic_asian", "pt154"]
  upper := "ҖҒӮғ„…ҶҮҲүҠӢҢҚҺҸҗ‘’“”•–—ҳҷҡӣңқһҹ\xa0ЎўЈӨҘҰ§Ё©Ә«¬ӯ®Ҝ°ұІіҙө¶·ё№ә»јҪҫҝАБВГДЕЖЗИЙКЛМНО" ++
    "ПРСТУФХЦЧШЩЪЫЬЭЮЯабвгдежзийклмнопрстуфхцчшщъыьэюя"

/-- The code pages of this family. -/
def nationalPages : List CodePage := [
  roman8, koi8Russian, koi8Tajik, koi8Ukrainian, kazakh, palm, asianCyrillic]

end Telematics.Text
