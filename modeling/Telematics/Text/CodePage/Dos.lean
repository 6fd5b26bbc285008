import Telematics.Text.CodePage

/-!
The code pages of DOS, by their numbers. Many have line drawings.
-/

namespace Telematics.Text

/-- United States. -/
def dos437 : CodePage where
  name := "cp437"
  aliases := ["437", "cspc8codepage437", "ibm437"]
  upper := "ÇüéâäàåçêëèïîìÄÅÉæÆôöòûùÿÖÜ¢£¥₧ƒáíóúñÑªº¿⌐¬½¼¡«»░▒▓│┤╡╢╖╕╣║╗╝╜╛┐└┴┬├─┼╞╟╚╔╩╦╠═╬╧╨╤" ++
    "╥╙╘╒╓╫╪┘┌█▄▌▐▀αßΓπΣσµτΦΘΩδ∞φε∩≡±≥≤⌠⌡÷≈°∙·√ⁿ²■\xa0"

/-- Arabic. -/
def dos720 : CodePage where
  name := "cp720"
  aliases := []
  upper := "\x80\x81éâ\x84à\x86çêëèïî\x8d\x8e\x8f\x90\u0651\u0652ô¤\u0640ûù\u0621\u0622\u0623" ++
    "\u0624£\u0625\u0626\u0627\u0628\u0629\u062a\u062b\u062c\u062d\u062e\u062f\u0630" ++
    "\u0631\u0632\u0633\u0634\u0635«»░▒▓│┤╡╢╖╕╣║╗╝╜╛┐└┴┬├─┼╞╟╚╔╩╦╠═╬╧╨╤╥╙╘╒╓╫╪┘┌█▄▌▐▀" ++
    "\u0636\u0637\u0638\u0639\u063a\u0641µ\u0642\u0643\u0644\u0645\u0646\u0647\u0648" ++
    "\u0649\u064a≡\u064b\u064c\u064d\u064e\u064f\u0650≈°∙·√ⁿ²■\xa0"

/-- Greek. -/
def dos737 : CodePage where
  name := "cp737"
  aliases := []
  upper := "ΑΒΓΔΕΖΗΘΙΚΛΜΝΞΟΠΡΣΤΥΦΧΨΩαβγδεζηθικλμνξοπρσςτυφχψ░▒▓│┤╡╢╖╕╣║╗╝╜╛┐└┴┬├─┼╞╟╚╔╩╦╠═╬╧╨╤" ++
    "╥╙╘╒╓╫╪┘┌█▄▌▐▀ωάέήϊίόύϋώΆΈΉΊΌΎΏ±≥≤ΪΫ÷≈°∙·√ⁿ²■\xa0"

/-- Baltic. -/
def dos775 : CodePage where
  name := "cp775"
  aliases := ["775", "cspc775baltic", "ibm775"]
  upper := "ĆüéāäģåćłēŖŗīŹÄÅÉæÆōöĢ¢ŚśÖÜø£Ø×¤ĀĪóŻżź”¦©®¬½¼Ł«»░▒▓│┤ĄČĘĖ╣║╗╝ĮŠ┐└┴┬├─┼ŲŪ╚╔╩╦╠═╬Žąč" ++
    "ęėįšųūž┘┌█▄▌▐▀ÓßŌŃõÕµńĶķĻļņĒŅ’\xad±“¾¶§÷„°∙·¹³²■\xa0"

/-- Western Europe. -/
def dos850 : CodePage where
  name := "cp850"
  aliases := ["850", "cspc850multilingual", "ibm850"]
  upper := "ÇüéâäàåçêëèïîìÄÅÉæÆôöòûùÿÖÜø£Ø×ƒáíóúñÑªº¿®¬½¼¡«»░▒▓│┤ÁÂÀ©╣║╗╝¢¥┐└┴┬├─┼ãÃ╚╔╩╦╠═╬¤ðÐ" ++
    "ÊËÈıÍÎÏ┘┌█▄¦Ì▀ÓßÔÒõÕµþÞÚÛÙýÝ¯´\xad±‗¾¶§÷¸°¨·¹³²■\xa0"

/-- Central Europe. -/
def dos852 : CodePage where
  name := "cp852"
  aliases := ["852", "cspcp852", "ibm852"]
  upper := "ÇüéâäůćçłëŐőîŹÄĆÉĹĺôöĽľŚśÖÜŤťŁ×čáíóúĄąŽžĘę¬źČş«»░▒▓│┤ÁÂĚŞ╣║╗╝Żż┐└┴┬├─┼Ăă╚╔╩╦╠═╬¤đĐ" ++
    "ĎËďŇÍÎě┘┌█▄ŢŮ▀ÓßÔŃńňŠšŔÚŕŰýÝţ´\xad˝˛ˇ˘§÷¸°¨˙űŘř■\xa0"

/-- Cyrillic. -/
def dos855 : CodePage where
  name := "cp855"
  aliases := ["855", "csibm855", "ibm855"]
  upper := "ђЂѓЃёЁєЄѕЅіІїЇјЈљЉњЊћЋќЌўЎџЏюЮъЪаАбБцЦдДеЕфФгГ«»░▒▓│┤хХиИ╣║╗╝йЙ┐└┴┬├─┼кК╚╔╩╦╠═╬¤лЛ" ++
    "мМнНоОп┘┌█▄Пя▀ЯрРсСтТуУжЖвВьЬ№\xadыЫзЗшШэЭщЩчЧ§■\xa0"

/-- Hebrew. -/
def dos856 : CodePage where
  name := "cp856"
  aliases := []
  upper := "\u05d0\u05d1\u05d2\u05d3\u05d4\u05d5\u05d6\u05d7\u05d8\u05d9\u05da\u05db\u05dc" ++
    "\u05dd\u05de\u05df\u05e0\u05e1\u05e2\u05e3\u05e4\u05e5\u05e6\u05e7\u05e8\u05e9" ++
    "\u05ea\ufffe£\ufffe×\ufffe\ufffe\ufffe\ufffe\ufffe\ufffe\ufffe\ufffe\ufffe\ufffe®¬" ++
    "½¼\ufffe«»░▒▓│┤\ufffe\ufffe\ufffe©╣║╗╝¢¥┐└┴┬├─┼\ufffe\ufffe╚╔╩╦╠═╬¤\ufffe\ufffe" ++
    "\ufffe\ufffe\ufffe\ufffe\ufffe\ufffe\ufffe┘┌█▄¦\ufffe▀\ufffe\ufffe\ufffe\ufffe" ++
    "\ufffe\ufffeµ\ufffe\ufffe\ufffe\ufffe\ufffe\ufffe\ufffe¯´\xad±‗¾¶§÷¸°¨·¹³²■\xa0"

/-- Turkish. -/
def dos857 : CodePage where
  name := "cp857"
  aliases := ["857", "csibm857", "ibm857"]
  upper := "ÇüéâäàåçêëèïîıÄÅÉæÆôöòûùİÖÜø£ØŞşáíóúñÑĞğ¿®¬½¼¡«»░▒▓│┤ÁÂÀ©╣║╗╝¢¥┐└┴┬├─┼ãÃ╚╔╩╦╠═╬¤ºª" ++
    "ÊËÈ\ufffeÍÎÏ┘┌█▄¦Ì▀ÓßÔÒõÕµ\ufffe×ÚÛÙìÿ¯´\xad±\ufffe¾¶§÷¸°¨·¹³²■\xa0"

/-- Western Europe with the euro sign. -/
def dos858 : CodePage where
  name := "cp858"
  aliases := ["858", "csibm858", "ibm858"]
  upper := "ÇüéâäàåçêëèïîìÄÅÉæÆôöòûùÿÖÜø£Ø×ƒáíóúñÑªº¿®¬½¼¡«»░▒▓│┤ÁÂÀ©╣║╗╝¢¥┐└┴┬├─┼ãÃ╚╔╩╦╠═╬¤ðÐ" ++
    "ÊËÈ€ÍÎÏ┘┌█▄¦Ì▀ÓßÔÒõÕµþÞÚÛÙýÝ¯´\xad±‗¾¶§÷¸°¨·¹³²■\xa0"

/-- Portuguese. -/
def dos860 : CodePage where
  name := "cp860"
  aliases := ["860", "csibm860", "ibm860"]
  upper := "ÇüéâãàÁçêÊèÍÔìÃÂÉÀÈôõòÚùÌÕÜ¢£Ù₧ÓáíóúñÑªº¿Ò¬½¼¡«»░▒▓│┤╡╢╖╕╣║╗╝╜╛┐└┴┬├─┼╞╟╚╔╩╦╠═╬╧╨╤" ++
    "╥╙╘╒╓╫╪┘┌█▄▌▐▀αßΓπΣσµτΦΘΩδ∞φε∩≡±≥≤⌠⌡÷≈°∙·√ⁿ²■\xa0"

/-- Icelandic. -/
def dos861 : CodePage where
  name := "cp861"
  aliases := ["861", "cp_is", "csibm861", "ibm861"]
  upper := "ÇüéâäàåçêëèÐðÞÄÅÉæÆôöþûÝýÖÜø£Ø₧ƒáíóúÁÍÓÚ¿⌐¬½¼¡«»░▒▓│┤╡╢╖╕╣║╗╝╜╛┐└┴┬├─┼╞╟╚╔╩╦╠═╬╧╨╤" ++
    "╥╙╘╒╓╫╪┘┌█▄▌▐▀αßΓπΣσµτΦΘΩδ∞φε∩≡±≥≤⌠⌡÷≈°∙·√ⁿ²■\xa0"

/-- Hebrew with line drawings. -/
def dos862 : CodePage where
  name := "cp862"
  aliases := ["862", "cspc862latinhebrew", "ibm862"]
  upper := "\u05d0\u05d1\u05d2\u05d3\u05d4\u05d5\u05d6\u05d7\u05d8\u05d9\u05da\u05db\u05dc" ++
    "\u05dd\u05de\u05df\u05e0\u05e1\u05e2\u05e3\u05e4\u05e5\u05e6\u05e7\u05e8\u05e9" ++
    "\u05ea¢£¥₧ƒáíóúñÑªº¿⌐¬½¼¡«»░▒▓│┤╡╢╖╕╣║╗╝╜╛┐└┴┬├─┼╞╟╚╔╩╦╠═╬╧╨╤╥╙╘╒╓╫╪┘┌█▄▌▐▀αßΓπΣσµ" ++
    "τΦΘΩδ∞φε∩≡±≥≤⌠⌡÷≈°∙·√ⁿ²■\xa0"

/-- Canadian French. -/
def dos863 : CodePage where
  name := "cp863"
  aliases := ["863", "csibm863", "ibm863"]
  upper := "ÇüéâÂà¶çêëèïî‗À§ÉÈÊôËÏûù¤ÔÜ¢£ÙÛƒ¦´óú¨¸³¯Î⌐¬½¼¾«»░▒▓│┤╡╢╖╕╣║╗╝╜╛┐└┴┬├─┼╞╟╚╔╩╦╠═╬╧╨╤" ++
    "╥╙╘╒╓╫╪┘┌█▄▌▐▀αßΓπΣσµτΦΘΩδ∞φε∩≡±≥≤⌠⌡÷≈°∙·√ⁿ²■\xa0"

/-- Arabic in presentation forms. -/
def dos864 : CodePage where
  name := "cp864"
  aliases := ["864", "csibm864", "ibm864"]
  lower := String.ofList (asciiHalf.toList.set 0x25 '\u066a')
  upper := "°·∙√▒─│┼┤┬├┴┐┌└┘β∞φ±½¼≈«»\ufef7\ufef8\ufffe\ufffe\ufefb\ufefc\ufffe\xa0\xad\ufe82£" ++
    "¤\ufe84\ufffe\ufffe\ufe8e\ufe8f\ufe95\ufe99،\ufe9d\ufea1\ufea5\u0660\u0661\u0662" ++
    "\u0663\u0664\u0665\u0666\u0667\u0668\u0669\ufed1\u061b\ufeb1\ufeb5\ufeb9\u061f¢" ++
    "\ufe80\ufe81\ufe83\ufe85\ufeca\ufe8b\ufe8d\ufe91\ufe93\ufe97\ufe9b\ufe9f\ufea3" ++
    "\ufea7\ufea9\ufeab\ufead\ufeaf\ufeb3\ufeb7\ufebb\ufebf\ufec1\ufec5\ufecb\ufecf¦¬÷×" ++
    "\ufec9\u0640\ufed3\ufed7\ufedb\ufedf\ufee3\ufee7\ufeeb\ufeed\ufeef\ufef3\ufebd" ++
    "\ufecc\ufece\ufecd\ufee1\ufe7d\u0651\ufee5\ufee9\ufeec\ufef0\ufef2\ufed0\ufed5" ++
    "\ufef5\ufef6\ufedd\ufed9\ufef1■\ufffe"

/-- Nordic. -/
def dos865 : CodePage where
  name := "cp865"
  aliases := ["865", "csibm865", "ibm865"]
  upper := "ÇüéâäàåçêëèïîìÄÅÉæÆôöòûùÿÖÜø£Ø₧ƒáíóúñÑªº¿⌐¬½¼¡«¤░▒▓│┤╡╢╖╕╣║╗╝╜╛┐└┴┬├─┼╞╟╚╔╩╦╠═╬╧╨╤" ++
    "╥╙╘╒╓╫╪┘┌█▄▌▐▀αßΓπΣσµτΦΘΩδ∞φε∩≡±≥≤⌠⌡÷≈°∙·√ⁿ²■\xa0"

/-- Cyrillic of Russia. -/
def dos866 : CodePage where
  name := "cp866"
  aliases := ["866", "csibm866", "ibm866"]
  upper := "АБВГДЕЖЗИЙКЛМНОПРСТУФХЦЧШЩЪЫЬЭЮЯабвгдежзийклмноп░▒▓│┤╡╢╖╕╣║╗╝╜╛┐└┴┬├─┼╞╟╚╔╩╦╠═╬╧╨╤" ++
    "╥╙╘╒╓╫╪┘┌█▄▌▐▀рстуфхцчшщъыьэюяЁёЄєЇїЎў°∙·√№¤■\xa0"

/-- Greek of Greece. -/
def dos869 : CodePage where
  name := "cp869"
  aliases := ["869", "cp_gr", "csibm869", "ibm869"]
  upper := "\ufffe\ufffe\ufffe\ufffe\ufffe\ufffeΆ\ufffe·¬¦‘’Έ―ΉΊΪΌ\ufffe\ufffeΎΫ©Ώ²³ά£έήίϊΐόύΑ" ++
    "ΒΓΔΕΖΗ½ΘΙ«»░▒▓│┤ΚΛΜΝ╣║╗╝ΞΟ┐└┴┬├─┼ΠΡ╚╔╩╦╠═╬ΣΤΥΦΧΨΩαβγ┘┌█▄δε▀ζηθικλμνξοπρσςτ΄\xad±υφ" ++
    "χ§ψ΅°¨ωϋΰώ■\xa0"

/-- Urdu. -/
def dos1006 : CodePage where
  name := "cp1006"
  aliases := []
  upper := upperControls ++
    "\xa0۰۱۲۳۴۵۶۷۸۹،\u061b\xad\u061f\ufe81\ufe8d\ufe8e\ufe8e\ufe8f\ufe91\ufb56\ufb58" ++
    "\ufe93\ufe95\ufe97\ufb66\ufb68\ufe99\ufe9b\ufe9d\ufe9f\ufb7a\ufb7c\ufea1\ufea3" ++
    "\ufea5\ufea7\ufea9\ufb84\ufeab\ufead\ufb8c\ufeaf\ufb8a\ufeb1\ufeb3\ufeb5\ufeb7" ++
    "\ufeb9\ufebb\ufebd\ufebf\ufec1\ufec5\ufec9\ufeca\ufecb\ufecc\ufecd\ufece\ufecf" ++
    "\ufed0\ufed1\ufed3\ufed5\ufed7\ufed9\ufedb\ufb92\ufb94\ufedd\ufedf\ufee0\ufee1" ++
    "\ufee3\ufb9e\ufee5\ufee7\ufe85\ufeed\ufba6\ufba8\ufba9\ufbaa\ufe80\ufe89\ufe8a" ++
    "\ufe8b\ufef1\ufef2\ufef3\ufbb0\ufbae\ufe7c\ufe7d"

/-- Cyrillic of Ukraine. -/
def dos1125 : CodePage where
  name := "cp1125"
  aliases := ["1125", "cp866u", "ibm1125", "ruscii"]
  upper := "АБВГДЕЖЗИЙКЛМНОПРСТУФХЦЧШЩЪЫЬЭЮЯабвгдежзийклмноп░▒▓│┤╡╢╖╕╣║╗╝╜╛┐└┴┬├─┼╞╟╚╔╩╦╠═╬╧╨╤" ++
    "╥╙╘╒╓╫╪┘┌█▄▌▐▀рстуфхцчшщъыьэюяЁёҐґЄєІіЇї·√№¤■\xa0"

/-- The code pages of this family. -/
def dosPages : List CodePage := [
  dos437, dos720, dos737, dos775, dos850, dos852, dos855, dos856, dos857, dos858, dos860, dos861,
  dos862, dos863, dos864, dos865, dos866, dos869, dos1006, dos1125]

end Telematics.Text
