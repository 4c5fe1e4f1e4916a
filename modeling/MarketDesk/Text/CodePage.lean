import MarketDesk.Text.CharIndex

/-!
# Character sets of single bytes

The bytes below 0x80 stand for themselves. What the others stand for is listed for each set by
their distance from 0x80; a byte that is not listed stands for nothing.
-/

namespace MarketDesk.Text

/-- A character set of single bytes. `iso8` is read alike in both orders of its lines. -/
inductive CodePage where
  | ibm866
  | iso2 | iso3 | iso4 | iso5 | iso6 | iso7 | iso8 | iso10 | iso13 | iso14 | iso15 | iso16
  | koi8R | koi8U
  | macRoman | macCyrillic
  | windows874 | windows1250 | windows1251 | windows1252 | windows1253
  | windows1254 | windows1255 | windows1256 | windows1257 | windows1258
  deriving DecidableEq, Repr

namespace CodePage

/-- The controls from 0x80 on, and the blank behind them. -/
def controls : String := "0:\u0080-\u0084 5=85 6:\u0086-\u009F 20=A0 "

/-- The characters beyond ASCII, as the text of an index. -/
def rows : CodePage → String
  | .ibm866 => "0:А-п░▒▓│┤╡╢╖╕╣║╗╝╜╛┐└┴┬├─┼╞╟╚╔╩╦╠═╬╧╨╤╥╙╘╒╓╫╪┘┌█▄▌▐▀р-яЁёЄєЇїЎў°∙·√№¤■ 7F=A0"
  | .iso2 => controls ++
    "21:Ą˘Ł¤ĽŚ§¨ŠŞŤŹ\u00ADŽŻ°ą˛ł´ľśˇ¸šşťź˝žżŔÁÂĂÄĹĆÇČÉĘËĚÍÎĎĐŃŇÓÔŐÖ×ŘŮÚŰÜÝŢßŕáâăäĺćçčéęëěíîďđńň
      73:óôőö÷řůúűüýţ˙"
  | .iso3 => controls ++
    "21:Ħ˘£¤ 26:Ĥ§¨İŞĞĴ\u00AD 2F:Ż°ħ²-µĥ·¸ışğĵ½ 3F:żÀÁÂ 44:ÄĊĈÇ-Ï 51:Ñ-ÔĠÖ×ĜÙ-ÜŬŜß-â
      64:äċĉç-ï 71:ñ-ôġö÷ĝù-üŭŝ˙"
  | .iso4 => controls ++
    "21:ĄĸŖ¤ĨĻ§¨ŠĒĢŦ\u00ADŽ¯°ą˛ŗ´ĩļˇ¸šēģŧŊžŋĀÁ-ÆĮČÉĘËĖÍÎĪĐŅŌĶÔ-ØŲÚÛÜŨŪßāá-æįčéęëėíîīđņōķô-øųúûü
      7D:ũū˙"
  | .iso5 => controls ++ "21:Ё-Ќ\u00ADЎ-я№ё-ќ§ўџ"
  | .iso6 => controls ++ "24:¤ 2C:،\u00AD 3B:\u061B 3F:\u061F 41:\u0621-\u063A 60:\u0640-\u0652"
  | .iso7 => controls ++ "21:‘’£€₯¦-©ͺ«¬\u00AD 2F:―°-³΄΅Ά·ΈΉΊ»Ό½Ύ-Ρ 53:Σ-ώ"
  | .iso8 => controls ++ "22:¢-©×«-¹÷»-¾ 5F:‗\u05D0-\u05EA 7D:\u200E\u200F"
  | .iso10 => controls ++
    "21:ĄĒĢĪĨĶ§ĻĐŠŦŽ\u00ADŪŊ°ąēģīĩķ·ļđšŧž―ūŋĀÁ-ÆĮČÉĘËĖÍ-ÐŅŌÓ-ÖŨØŲÚ-ßāá-æįčéęëėí-ðņōó-öũøųú-þĸ"
  | .iso13 => controls ++
    "21:”¢£¤„¦§Ø©Ŗ«-®Æ°-³“µ¶·ø¹ŗ»-¾æĄĮĀĆÄÅĘĒČÉŹĖĢĶĪĻŠŃŅÓŌÕÖ×ŲŁŚŪÜŻŽßąįāćäåęēčéźėģķīļšńņóōõö÷ųłś
      7B:ūüżž’"
  | .iso14 => controls ++ "21:Ḃḃ£ĊċḊ§Ẁ©ẂḋỲ\u00AD®ŸḞḟĠġṀṁ¶ṖẁṗẃṠỳẄẅṡÀ-ÏŴÑ-ÖṪØ-ÝŶß-ïŵñ-öṫø-ýŷÿ"
  | .iso15 => controls ++ "21:¡¢£€¥Š§š©-³Žµ¶·ž¹º»ŒœŸ¿-ÿ"
  | .iso16 => controls ++
    "21:ĄąŁ€„Š§š©Ș«Ź\u00ADźŻ°±ČłŽ”¶·žčș»ŒœŸżÀÁÂĂÄĆÆ-ÏĐŃÒÓÔŐÖŚŰÙ-ÜĘȚß-âăäćæ-ïđńòóôőöśűù-üęțÿ"
  | .koi8R =>
    "0:─│┌┐└┘├┤┬┴┼▀▄█▌▐-▓⌠■∙√≈≤≥ 1A=A0 1B:⌡°²·÷═║╒ё╓-╡Ё╢-╬©юабцдефгхи-пяр-ужвьызшэщчъЮАБЦДЕФГХ
      69:И-ПЯР-УЖВЬЫЗШЭЩЧЪ"
  | .koi8U =>
    "0:─│┌┐└┘├┤┬┴┼▀▄█▌▐-▓⌠■∙√≈≤≥ 1A=A0 1B:⌡°²·÷═║╒ёє╔ії╗-╛ґў╞-╡ЁЄ╣ІЇ╦-╪ҐЎ©юабцдефгхи-пяр-ужвьыз
      5B:шэщчъЮАБЦДЕФГХИ-ПЯР-УЖВЬЫЗШЭЩЧЪ"
  | .macRoman =>
    "0:ÄÅÇÉÑÖÜáàâäãåçéèêëíìîïñóòôöõúùûü†°¢£§•¶ß®©™´¨≠ÆØ∞±≤≥¥µ∂∑∏π∫ªºΩæø¿¡¬√ƒ≈∆«»… 4A=A0
      4B:ÀÃÕŒœ–—“”‘’÷◊ÿŸ⁄€‹›ﬁﬂ‡·‚„‰ÂÊÁËÈÍÎÏÌÓÔ\uF8FFÒÚÛÙıˆ˜¯˘˙˚¸˝˛ˇ"
  | .macCyrillic =>
    "0:А-Я†°Ґ£§•¶І®©™Ђђ≠Ѓѓ∞±≤≥іµґЈЄєЇїЉљЊњјЅ¬√ƒ≈∆«»… 4A=A0 4B:ЋћЌќѕ–—“”‘’÷„ЎўЏџ№Ёёяа-ю€"
  | .windows874 => "0:€\u0081-\u0084…\u0086-\u0090‘’“”•–—\u0098-\u009F 20=A0 21:ก-\u0E3A 5F:฿-๛"
  | .windows1250 =>
    "0:€\u0081‚\u0083„…†‡\u0088‰Š‹ŚŤŽŹ\u0090‘’“”•–—\u0098™š›śťžź 20=A0 21:ˇ˘Ł¤Ą¦-©Ş«-®Ż°±˛ł´-¸ą
      3A:ş»Ľ˝ľżŔÁÂĂÄĹĆÇČÉĘËĚÍÎĎĐŃŇÓÔŐÖ×ŘŮÚŰÜÝŢßŕáâăäĺćçčéęëěíîďđńňóôőö÷řůúűüýţ˙"
  | .windows1251 =>
    "0:ЂЃ‚ѓ„…†‡€‰Љ‹ЊЌЋЏђ‘’“”•–—\u0098™љ›њќћџ 20=A0 21:ЎўЈ¤Ґ¦§Ё©Є«-®Ї°±Ііґµ¶·ё№є»јЅѕїА-я"
  | .windows1252 => "0:€\u0081‚ƒ„…†‡ˆ‰Š‹Œ\u008DŽ\u008F\u0090‘’“”•–—˜™š›œ\u009DžŸ 20=A0 21:¡-ÿ"
  | .windows1253 =>
    "0:€\u0081‚ƒ„…†‡\u0088‰\u008A‹\u008C-\u0090‘’“”•–—\u0098™\u009A›\u009C-\u009F 20=A0
      21:΅Ά£-© 2B:«-®―°-³΄µ¶·ΈΉΊ»Ό½Ύ-Ρ 53:Σ-ώ"
  | .windows1254 =>
    "0:€\u0081‚ƒ„…†‡ˆ‰Š‹Œ\u008D-\u0090‘’“”•–—˜™š›œ\u009D\u009EŸ 20=A0 21:¡-ÏĞÑ-ÜİŞß-ïğñ-üışÿ"
  | .windows1255 =>
    "0:€\u0081‚ƒ„…†‡ˆ‰\u008A‹\u008C-\u0090‘’“”•–—˜™\u009A›\u009C-\u009F 20=A0 21:¡¢£₪¥-©×«-¹÷
      3B:»-¿\u05B0-\u05C3\u05F0-\u05F4 60:\u05D0-\u05EA 7D:\u200E\u200F"
  | .windows1256 =>
    "0:€\u067E‚ƒ„…†‡ˆ‰\u0679‹Œ\u0686\u0698\u0688\u06AF‘’“”•–—\u06A9™\u0691›œ\u200C\u200D\u06BA
      20=A0 21:،¢-©\u06BE«-¹\u061B»-¾\u061F\u06C1\u0621-\u0636×\u0637-\u063A\u0640-\u0643à\u0644
      62:â\u0645-\u0648ç-ë\u0649\u064Aîï\u064B-\u064Eô\u064F\u0650÷\u0651ù\u0652ûü\u200E\u200F
      7F:\u06D2"
  | .windows1257 =>
    "0:€\u0081‚\u0083„…†‡\u0088‰\u008A‹\u008C¨ˇ¸\u0090‘’“”•–—\u0098™\u009A›\u009C¯˛\u009F 20=A0
      22:¢£¤ 26:¦§Ø©Ŗ«-®Æ°-·ø¹ŗ»-¾æĄĮĀĆÄÅĘĒČÉŹĖĢĶĪĻŠŃŅÓŌÕÖ×ŲŁŚŪÜŻŽßąįāćäåęēčéźėģķīļšńņóōõö÷ųłśūü
      7D:żž˙"
  | .windows1258 =>
    "0:€\u0081‚ƒ„…†‡ˆ‰\u008A‹Œ\u008D-\u0090‘’“”•–—˜™\u009A›œ\u009D\u009EŸ 20=A0 21:¡-ÂĂÄ-Ë
      4C:\u0300ÍÎÏĐÑ\u0309ÓÔƠÖ-ÜƯ\u0303ß-âăä-ë\u0301íîïđñ\u0323óôơö-üư₫ÿ"

/-- The index of a set. -/
def index (page : CodePage) : CharIndex := CharIndex.ofText page.rows

/-- The character of a byte. -/
def char? (index : CharIndex) (b : UInt8) : Option Char :=
  if b < 0x80 then some (Char.ofNat b.toNat)
  else (index.lookup (b.toNat - 0x80)).bind List.head?

/-- Reads bytes. -/
def read (page : CodePage) (bytes : List UInt8) : List Char :=
  let index := page.index
  bytes.map fun b => (char? index b).getD '\uFFFD'

end CodePage

end MarketDesk.Text
