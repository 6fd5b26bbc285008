import Telematics.Text.CharacterMap
import Telematics.Text.CodeRange

/-!
What is done with single characters when a name is prepared for comparison: some are left out,
capitals become small letters, and some are refused.
-/

namespace Telematics.Text

/-- Characters that are left out. -/
def ignoredRanges : CodeRanges := [
  (0xad, 0xad), (0x34f, 0x34f), (0x1806, 0x1806), (0x180b, 0x180d), (0x200b, 0x200d),
  (0x2060, 0x2060), (0xfe00, 0xfe0f), (0xfeff, 0xfeff)]

/-- What characters become. -/
def foldings : CharacterMap := [
  ⟨0x41, ["a\nb\nc\nd\ne\nf\ng\nh\ni\nj\nk\nl\nm\nn\no\np\nq\nr\ns\nt\nu\nv\nw\nx\ny\nz"]⟩,
  ⟨0xb5, ["μ"]⟩,
  ⟨0xc0, ["à\ná\nâ\nã\nä\nå\næ\nç\nè\né\nê\në\nì\ní\nî\nï\nð\nñ\nò\nó\nô\nõ\nö\n×\nø\nù\nú\nû",
    "ü\ný\nþ\nss"]⟩,
  ⟨0x100, ["ā\nā\nă\nă\ną\ną\nć\nć\nĉ\nĉ\nċ\nċ\nč\nč\nď\nď\nđ\nđ\nē\nē\nĕ\nĕ\nė\nė\nę\nę\ně\ně",
    "ĝ\nĝ\nğ\nğ\nġ\nġ\nģ\nģ\nĥ\nĥ\nħ\nħ\nĩ\nĩ\nī\nī\nĭ\nĭ\nį\nį\ni\u0307\nı\nĳ\nĳ\nĵ\nĵ\nķ\nķ",
    "ĸ\nĺ\nĺ\nļ\nļ\nľ\nľ\nŀ\nŀ\nł\nł\nń\nń\nņ\nņ\nň\nň\nʼn\nŋ\nŋ\nō\nō\nŏ\nŏ\nő\nő\nœ\nœ\nŕ",
    "ŕ\nŗ\nŗ\nř\nř\nś\nś\nŝ\nŝ\nş\nş\nš\nš\nţ\nţ\nť\nť\nŧ\nŧ\nũ\nũ\nū\nū\nŭ\nŭ\nů\nů\nű\nű\nų",
    "ų\nŵ\nŵ\nŷ\nŷ\nÿ\nź\nź\nż\nż\nž\nž\ns\nƀ\nɓ\nƃ\nƃ\nƅ\nƅ\nɔ\nƈ\nƈ\nɖ\nɗ\nƌ\nƌ\nƍ\nǝ\nə\nɛ",
    "ƒ\nƒ\nɠ\nɣ\nƕ\nɩ\nɨ\nƙ\nƙ\nƚ\nƛ\nɯ\nɲ\nƞ\nɵ\nơ\nơ\nƣ\nƣ\nƥ\nƥ\nʀ\nƨ\nƨ\nʃ\nƪ\nƫ\nƭ\nƭ\nʈ",
    "ư\nư\nʊ\nʋ\nƴ\nƴ\nƶ\nƶ\nʒ\nƹ\nƹ\nƺ\nƻ\nƽ"]⟩,
  ⟨0x1c4, ["ǆ\nǆ\nǆ\nǉ\nǉ\nǉ\nǌ\nǌ\nǌ\nǎ\nǎ\nǐ\nǐ\nǒ\nǒ\nǔ\nǔ\nǖ\nǖ\nǘ\nǘ\nǚ\nǚ\nǜ\nǜ\nǝ\nǟ\nǟ",
    "ǡ\nǡ\nǣ\nǣ\nǥ\nǥ\nǧ\nǧ\nǩ\nǩ\nǫ\nǫ\nǭ\nǭ\nǯ\nǯ\nj\u030c\nǳ\nǳ\nǳ\nǵ\nǵ\nƕ\nƿ\nǹ\nǹ\nǻ\nǻ",
    "ǽ\nǽ\nǿ\nǿ\nȁ\nȁ\nȃ\nȃ\nȅ\nȅ\nȇ\nȇ\nȉ\nȉ\nȋ\nȋ\nȍ\nȍ\nȏ\nȏ\nȑ\nȑ\nȓ\nȓ\nȕ\nȕ\nȗ\nȗ\nș\nș",
    "ț\nț\nȝ\nȝ\nȟ\nȟ\nƞ\nȡ\nȣ\nȣ\nȥ\nȥ\nȧ\nȧ\nȩ\nȩ\nȫ\nȫ\nȭ\nȭ\nȯ\nȯ\nȱ\nȱ\nȳ"]⟩,
  ⟨0x23a, ["ⱥ\nȼ\nȼ\nƚ\nⱦ\nȿ\nɀ\nɂ\nɂ\nƀ\nʉ\nʌ\nɇ\nɇ\nɉ\nɉ\nɋ\nɋ\nɍ\nɍ\nɏ"]⟩,
  ⟨0x345, ["ι"]⟩,
  ⟨0x370, ["ͱ\nͱ\nͳ\nͳ\n\u0374\n͵\nͷ\nͷ\n\u0378\n\u0379\n ι"]⟩,
  ⟨0x37f, ["ϳ"]⟩,
  ⟨0x386, ["ά\n\u0387\nέ\nή\nί\n\u038b\nό\n\u038d\nύ\nώ\nι\u0308\u0301\nα\nβ\nγ\nδ\nε\nζ\nη\nθ",
    "ι\nκ\nλ\nμ\nν\nξ\nο\nπ\nρ\n\u03a2\nσ\nτ\nυ\nφ\nχ\nψ\nω\nϊ\nϋ"]⟩,
  ⟨0x3b0, ["υ\u0308\u0301"]⟩,
  ⟨0x3c2, ["σ"]⟩,
  ⟨0x3cf, ["ϗ\nβ\nθ\nυ\nύ\nϋ\nφ\nπ\nϗ\nϙ\nϙ\nϛ\nϛ\nϝ\nϝ\nϟ\nϟ\nϡ\nϡ\nϣ\nϣ\nϥ\nϥ\nϧ\nϧ\nϩ\nϩ\nϫ",
    "ϫ\nϭ\nϭ\nϯ\nϯ\nκ\nρ\nσ\nϳ\nθ\nε\n϶\nϸ\nϸ\nσ\nϻ\nϻ\nϼ\nͻ\nͼ\nͽ\nѐ\nё\nђ\nѓ\nє\nѕ\nі\nї\nј",
    "љ\nњ\nћ\nќ\nѝ\nў\nџ\nа\nб\nв\nг\nд\nе\nж\nз\nи\nй\nк\nл\nм\nн\nо\nп\nр\nс\nт\nу\nф\nх\nц",
    "ч\nш\nщ\nъ\nы\nь\nэ\nю\nя"]⟩,
  ⟨0x460, ["ѡ\nѡ\nѣ\nѣ\nѥ\nѥ\nѧ\nѧ\nѩ\nѩ\nѫ\nѫ\nѭ\nѭ\nѯ\nѯ\nѱ\nѱ\nѳ\nѳ\nѵ\nѵ\nѷ\nѷ\nѹ\nѹ\nѻ\nѻ",
    "ѽ\nѽ\nѿ\nѿ\nҁ"]⟩,
  ⟨0x48a, ["ҋ\nҋ\nҍ\nҍ\nҏ\nҏ\nґ\nґ\nғ\nғ\nҕ\nҕ\nҗ\nҗ\nҙ\nҙ\nқ\nқ\nҝ\nҝ\nҟ\nҟ\nҡ\nҡ\nң\nң\nҥ\nҥ",
    "ҧ\nҧ\nҩ\nҩ\nҫ\nҫ\nҭ\nҭ\nү\nү\nұ\nұ\nҳ\nҳ\nҵ\nҵ\nҷ\nҷ\nҹ\nҹ\nһ\nһ\nҽ\nҽ\nҿ\nҿ\nӏ\nӂ\nӂ\nӄ",
    "ӄ\nӆ\nӆ\nӈ\nӈ\nӊ\nӊ\nӌ\nӌ\nӎ\nӎ\nӏ\nӑ\nӑ\nӓ\nӓ\nӕ\nӕ\nӗ\nӗ\nә\nә\nӛ\nӛ\nӝ\nӝ\nӟ\nӟ\nӡ\nӡ",
    "ӣ\nӣ\nӥ\nӥ\nӧ\nӧ\nө\nө\nӫ\nӫ\nӭ\nӭ\nӯ\nӯ\nӱ\nӱ\nӳ\nӳ\nӵ\nӵ\nӷ\nӷ\nӹ\nӹ\nӻ\nӻ\nӽ\nӽ\nӿ\nӿ",
    "ԁ\nԁ\nԃ\nԃ\nԅ\nԅ\nԇ\nԇ\nԉ\nԉ\nԋ\nԋ\nԍ\nԍ\nԏ\nԏ\nԑ\nԑ\nԓ\nԓ\nԕ\nԕ\nԗ\nԗ\nԙ\nԙ\nԛ\nԛ\nԝ\nԝ",
    "ԟ\nԟ\nԡ\nԡ\nԣ\nԣ\nԥ\nԥ\nԧ\nԧ\nԩ\nԩ\nԫ\nԫ\nԭ\nԭ\nԯ\nԯ\n\u0530\nա\nբ\nգ\nդ\nե\nզ\nէ\nը\nթ",
    "ժ\nի\nլ\nխ\nծ\nկ\nհ\nձ\nղ\nճ\nմ\nյ\nն\nշ\nո\nչ\nպ\nջ\nռ\nս\nվ\nտ\nր\nց\nւ\nփ\nք\nօ\nֆ"]⟩,
  ⟨0x587, ["եւ"]⟩,
  ⟨0x10a0, ["ⴀ\nⴁ\nⴂ\nⴃ\nⴄ\nⴅ\nⴆ\nⴇ\nⴈ\nⴉ\nⴊ\nⴋ\nⴌ\nⴍ\nⴎ\nⴏ\nⴐ\nⴑ\nⴒ\nⴓ\nⴔ\nⴕ\nⴖ\nⴗ\nⴘ\nⴙ\nⴚ",
    "ⴛ\nⴜ\nⴝ\nⴞ\nⴟ\nⴠ\nⴡ\nⴢ\nⴣ\nⴤ\nⴥ\n\u10c6\nⴧ"]⟩,
  ⟨0x10cd, ["ⴭ"]⟩,
  ⟨0x13a0, ["ꭰ\nꭱ\nꭲ\nꭳ\nꭴ\nꭵ\nꭶ\nꭷ\nꭸ\nꭹ\nꭺ\nꭻ\nꭼ\nꭽ\nꭾ\nꭿ\nꮀ\nꮁ\nꮂ\nꮃ\nꮄ\nꮅ\nꮆ\nꮇ\nꮈ\nꮉ\nꮊ",
    "ꮋ\nꮌ\nꮍ\nꮎ\nꮏ\nꮐ\nꮑ\nꮒ\nꮓ\nꮔ\nꮕ\nꮖ\nꮗ\nꮘ\nꮙ\nꮚ\nꮛ\nꮜ\nꮝ\nꮞ\nꮟ\nꮠ\nꮡ\nꮢ\nꮣ\nꮤ\nꮥ\nꮦ\nꮧ\nꮨ",
    "ꮩ\nꮪ\nꮫ\nꮬ\nꮭ\nꮮ\nꮯ\nꮰ\nꮱ\nꮲ\nꮳ\nꮴ\nꮵ\nꮶ\nꮷ\nꮸ\nꮹ\nꮺ\nꮻ\nꮼ\nꮽ\nꮾ\nꮿ\nᏸ\nᏹ\nᏺ\nᏻ\nᏼ\nᏽ"]⟩,
  ⟨0x1c90, ["ა\nბ\nგ\nდ\nე\nვ\nზ\nთ\nი\nკ\nლ\nმ\nნ\nო\nპ\nჟ\nრ\nს\nტ\nუ\nფ\nქ\nღ\nყ\nშ\nჩ\nც",
    "ძ\nწ\nჭ\nხ\nჯ\nჰ\nჱ\nჲ\nჳ\nჴ\nჵ\nჶ\nჷ\nჸ\nჹ\nჺ\n\u1cbb\n\u1cbc\nჽ\nჾ\nჿ"]⟩,
  ⟨0x1e00, ["ḁ\nḁ\nḃ\nḃ\nḅ\nḅ\nḇ\nḇ\nḉ\nḉ\nḋ\nḋ\nḍ\nḍ\nḏ\nḏ\nḑ\nḑ\nḓ\nḓ\nḕ\nḕ\nḗ\nḗ\nḙ\nḙ\nḛ",
    "ḛ\nḝ\nḝ\nḟ\nḟ\nḡ\nḡ\nḣ\nḣ\nḥ\nḥ\nḧ\nḧ\nḩ\nḩ\nḫ\nḫ\nḭ\nḭ\nḯ\nḯ\nḱ\nḱ\nḳ\nḳ\nḵ\nḵ\nḷ\nḷ\nḹ",
    "ḹ\nḻ\nḻ\nḽ\nḽ\nḿ\nḿ\nṁ\nṁ\nṃ\nṃ\nṅ\nṅ\nṇ\nṇ\nṉ\nṉ\nṋ\nṋ\nṍ\nṍ\nṏ\nṏ\nṑ\nṑ\nṓ\nṓ\nṕ\nṕ\nṗ",
    "ṗ\nṙ\nṙ\nṛ\nṛ\nṝ\nṝ\nṟ\nṟ\nṡ\nṡ\nṣ\nṣ\nṥ\nṥ\nṧ\nṧ\nṩ\nṩ\nṫ\nṫ\nṭ\nṭ\nṯ\nṯ\nṱ\nṱ\nṳ\nṳ\nṵ",
    "ṵ\nṷ\nṷ\nṹ\nṹ\nṻ\nṻ\nṽ\nṽ\nṿ\nṿ\nẁ\nẁ\nẃ\nẃ\nẅ\nẅ\nẇ\nẇ\nẉ\nẉ\nẋ\nẋ\nẍ\nẍ\nẏ\nẏ\nẑ\nẑ\nẓ",
    "ẓ\nẕ\nẕ\nh\u0331\nt\u0308\nw\u030a\ny\u030a\naʾ\nṡ\nẜ\nẝ\nss\nẟ\nạ\nạ\nả\nả\nấ\nấ\nầ\nầ",
    "ẩ\nẩ\nẫ\nẫ\nậ\nậ\nắ\nắ\nằ\nằ\nẳ\nẳ\nẵ\nẵ\nặ\nặ\nẹ\nẹ\nẻ\nẻ\nẽ\nẽ\nế\nế\nề\nề\nể\nể\nễ\nễ",
    "ệ\nệ\nỉ\nỉ\nị\nị\nọ\nọ\nỏ\nỏ\nố\nố\nồ\nồ\nổ\nổ\nỗ\nỗ\nộ\nộ\nớ\nớ\nờ\nờ\nở\nở\nỡ\nỡ\nợ\nợ",
    "ụ\nụ\nủ\nủ\nứ\nứ\nừ\nừ\nử\nử\nữ\nữ\nự\nự\nỳ\nỳ\nỵ\nỵ\nỷ\nỷ\nỹ\nỹ\nỻ\nỻ\nỽ\nỽ\nỿ"]⟩,
  ⟨0x1f08, ["ἀ\nἁ\nἂ\nἃ\nἄ\nἅ\nἆ\nἇ"]⟩,
  ⟨0x1f18, ["ἐ\nἑ\nἒ\nἓ\nἔ\nἕ"]⟩,
  ⟨0x1f28, ["ἠ\nἡ\nἢ\nἣ\nἤ\nἥ\nἦ\nἧ"]⟩,
  ⟨0x1f38, ["ἰ\nἱ\nἲ\nἳ\nἴ\nἵ\nἶ\nἷ"]⟩,
  ⟨0x1f48, ["ὀ\nὁ\nὂ\nὃ\nὄ\nὅ\n\u1f4e\n\u1f4f\nυ\u0313\nὑ\nυ\u0313\u0300\nὓ\nυ\u0313\u0301\nὕ",
    "υ\u0313\u0342\nὗ\n\u1f58\nὑ\n\u1f5a\nὓ\n\u1f5c\nὕ\n\u1f5e\nὗ"]⟩,
  ⟨0x1f68, ["ὠ\nὡ\nὢ\nὣ\nὤ\nὥ\nὦ\nὧ"]⟩,
  ⟨0x1f80, ["ἀι\nἁι\nἂι\nἃι\nἄι\nἅι\nἆι\nἇι\nἀι\nἁι\nἂι\nἃι\nἄι\nἅι\nἆι\nἇι\nἠι\nἡι\nἢι\nἣι",
    "ἤι\nἥι\nἦι\nἧι\nἠι\nἡι\nἢι\nἣι\nἤι\nἥι\nἦι\nἧι\nὠι\nὡι\nὢι\nὣι\nὤι\nὥι\nὦι\nὧι\nὠι\nὡι",
    "ὢι\nὣι\nὤι\nὥι\nὦι\nὧι\nᾰ\nᾱ\nὰι\nαι\nάι\n\u1fb5\nα\u0342\nα\u0342ι\nᾰ\nᾱ\nὰ\n\u1f71\nαι",
    "᾽\nι\n᾿\n῀\n῁\nὴι\nηι\nήι\n\u1fc5\nη\u0342\nη\u0342ι\nὲ\n\u1f73\nὴ\n\u1f75\nηι"]⟩,
  ⟨0x1fd2, ["ι\u0308\u0300\nι\u0308\u0301\n\u1fd4\n\u1fd5\nι\u0342\nι\u0308\u0342\nῐ\nῑ\nὶ",
    "\u1f77"]⟩,
  ⟨0x1fe2, ["υ\u0308\u0300\nυ\u0308\u0301\nρ\u0313\nῥ\nυ\u0342\nυ\u0308\u0342\nῠ\nῡ\nὺ\n\u1f7b",
    "ῥ"]⟩,
  ⟨0x1ff2, ["ὼι\nωι\nώι\n\u1ff5\nω\u0342\nω\u0342ι\nὸ\n\u1f79\nὼ\n\u1f7d\nωι"]⟩,
  ⟨0x20a8, ["rs"]⟩,
  ⟨0x2102, ["c\n°c\n℄\n℅\n℆\nɛ\n℈\n°f\nℊ\nh\nh\nh\nℎ\nℏ\ni\ni\nl\nℓ\n℔\nn\nno\n℗\n℘\np\nq\nr",
    "r\nr\n℞\n℟\nsm\ntel\ntm\n℣\nz\n℥\nω\n℧\nz\n℩\nk\nå\nb\nc\n℮\nℯ\ne\nf\nⅎ\nm"]⟩,
  ⟨0x213e, ["γ\nπ"]⟩,
  ⟨0x2145, ["d"]⟩,
  ⟨0x2160, ["ⅰ\nⅱ\nⅲ\nⅳ\nⅴ\nⅵ\nⅶ\nⅷ\nⅸ\nⅹ\nⅺ\nⅻ\nⅼ\nⅽ\nⅾ\nⅿ"]⟩,
  ⟨0x2183, ["ↄ"]⟩,
  ⟨0x24b6, ["ⓐ\nⓑ\nⓒ\nⓓ\nⓔ\nⓕ\nⓖ\nⓗ\nⓘ\nⓙ\nⓚ\nⓛ\nⓜ\nⓝ\nⓞ\nⓟ\nⓠ\nⓡ\nⓢ\nⓣ\nⓤ\nⓥ\nⓦ\nⓧ\nⓨ\nⓩ"]⟩,
  ⟨0x2c00, ["ⰰ\nⰱ\nⰲ\nⰳ\nⰴ\nⰵ\nⰶ\nⰷ\nⰸ\nⰹ\nⰺ\nⰻ\nⰼ\nⰽ\nⰾ\nⰿ\nⱀ\nⱁ\nⱂ\nⱃ\nⱄ\nⱅ\nⱆ\nⱇ\nⱈ\nⱉ\nⱊ",
    "ⱋ\nⱌ\nⱍ\nⱎ\nⱏ\nⱐ\nⱑ\nⱒ\nⱓ\nⱔ\nⱕ\nⱖ\nⱗ\nⱘ\nⱙ\nⱚ\nⱛ\nⱜ\nⱝ\nⱞ\nⱟ"]⟩,
  ⟨0x2c60, ["ⱡ\nⱡ\nɫ\nᵽ\nɽ\nⱥ\nⱦ\nⱨ\nⱨ\nⱪ\nⱪ\nⱬ\nⱬ\nɑ\nɱ\nɐ\nɒ\nⱱ\nⱳ\nⱳ\nⱴ\nⱶ"]⟩,
  ⟨0x2c7e, ["ȿ\nɀ\nⲁ\nⲁ\nⲃ\nⲃ\nⲅ\nⲅ\nⲇ\nⲇ\nⲉ\nⲉ\nⲋ\nⲋ\nⲍ\nⲍ\nⲏ\nⲏ\nⲑ\nⲑ\nⲓ\nⲓ\nⲕ\nⲕ\nⲗ\nⲗ\nⲙ",
    "ⲙ\nⲛ\nⲛ\nⲝ\nⲝ\nⲟ\nⲟ\nⲡ\nⲡ\nⲣ\nⲣ\nⲥ\nⲥ\nⲧ\nⲧ\nⲩ\nⲩ\nⲫ\nⲫ\nⲭ\nⲭ\nⲯ\nⲯ\nⲱ\nⲱ\nⲳ\nⲳ\nⲵ\nⲵ\nⲷ",
    "ⲷ\nⲹ\nⲹ\nⲻ\nⲻ\nⲽ\nⲽ\nⲿ\nⲿ\nⳁ\nⳁ\nⳃ\nⳃ\nⳅ\nⳅ\nⳇ\nⳇ\nⳉ\nⳉ\nⳋ\nⳋ\nⳍ\nⳍ\nⳏ\nⳏ\nⳑ\nⳑ\nⳓ\nⳓ\nⳕ",
    "ⳕ\nⳗ\nⳗ\nⳙ\nⳙ\nⳛ\nⳛ\nⳝ\nⳝ\nⳟ\nⳟ\nⳡ\nⳡ\nⳣ"]⟩,
  ⟨0x2ceb, ["ⳬ\nⳬ\nⳮ"]⟩,
  ⟨0x2cf2, ["ⳳ"]⟩,
  ⟨0x3371, ["hpa\n㍲\nau\n㍴\nov"]⟩,
  ⟨0x3380, ["pa\nna\nμa\nma\nka\nkb\nmb\ngb\n㎈\n㎉\npf\nnf\nμf\n㎍\n㎎\n㎏\nhz\nkhz\nmhz\nghz\nthz"]⟩,
  ⟨0x33a9, ["pa\nkpa\nmpa\ngpa"]⟩,
  ⟨0x33b4, ["pv\nnv\nμv\nmv\nkv\nmv\npw\nnw\nμw\nmw\nkw\nmw\nkω\nmω\n㏂\nbq\n㏄\n㏅\nc∕kg\nco.",
    "db\ngy\n㏊\nhp\n㏌\nkk\nkm"]⟩,
  ⟨0x33d7, ["ph\n㏘\nppm\npr\n㏛\nsv\nwb"]⟩,
  ⟨0xa640, ["ꙁ\nꙁ\nꙃ\nꙃ\nꙅ\nꙅ\nꙇ\nꙇ\nꙉ\nꙉ\nꙋ\nꙋ\nꙍ\nꙍ\nꙏ\nꙏ\nꙑ\nꙑ\nꙓ\nꙓ\nꙕ\nꙕ\nꙗ\nꙗ\nꙙ\nꙙ\nꙛ",
    "ꙛ\nꙝ\nꙝ\nꙟ\nꙟ\nꙡ\nꙡ\nꙣ\nꙣ\nꙥ\nꙥ\nꙧ\nꙧ\nꙩ\nꙩ\nꙫ\nꙫ\nꙭ"]⟩,
  ⟨0xa680, ["ꚁ\nꚁ\nꚃ\nꚃ\nꚅ\nꚅ\nꚇ\nꚇ\nꚉ\nꚉ\nꚋ\nꚋ\nꚍ\nꚍ\nꚏ\nꚏ\nꚑ\nꚑ\nꚓ\nꚓ\nꚕ\nꚕ\nꚗ\nꚗ\nꚙ\nꚙ\nꚛ"]⟩,
  ⟨0xa722, ["ꜣ\nꜣ\nꜥ\nꜥ\nꜧ\nꜧ\nꜩ\nꜩ\nꜫ\nꜫ\nꜭ\nꜭ\nꜯ\nꜯ\nꜰ\nꜱ\nꜳ\nꜳ\nꜵ\nꜵ\nꜷ\nꜷ\nꜹ\nꜹ\nꜻ\nꜻ\nꜽ",
    "ꜽ\nꜿ\nꜿ\nꝁ\nꝁ\nꝃ\nꝃ\nꝅ\nꝅ\nꝇ\nꝇ\nꝉ\nꝉ\nꝋ\nꝋ\nꝍ\nꝍ\nꝏ\nꝏ\nꝑ\nꝑ\nꝓ\nꝓ\nꝕ\nꝕ\nꝗ\nꝗ\nꝙ\nꝙ\nꝛ",
    "ꝛ\nꝝ\nꝝ\nꝟ\nꝟ\nꝡ\nꝡ\nꝣ\nꝣ\nꝥ\nꝥ\nꝧ\nꝧ\nꝩ\nꝩ\nꝫ\nꝫ\nꝭ\nꝭ\nꝯ"]⟩,
  ⟨0xa779, ["ꝺ\nꝺ\nꝼ\nꝼ\nᵹ\nꝿ\nꝿ\nꞁ\nꞁ\nꞃ\nꞃ\nꞅ\nꞅ\nꞇ"]⟩,
  ⟨0xa78b, ["ꞌ\nꞌ\nɥ\nꞎ\nꞏ\nꞑ\nꞑ\nꞓ\nꞓ\nꞔ\nꞕ\nꞗ\nꞗ\nꞙ\nꞙ\nꞛ\nꞛ\nꞝ\nꞝ\nꞟ\nꞟ\nꞡ\nꞡ\nꞣ\nꞣ\nꞥ\nꞥ",
    "ꞧ\nꞧ\nꞩ\nꞩ\nɦ\nɜ\nɡ\nɬ\nɪ\nꞯ\nʞ\nʇ\nʝ\nꭓ\nꞵ\nꞵ\nꞷ\nꞷ\nꞹ\nꞹ\nꞻ\nꞻ\nꞽ\nꞽ\nꞿ\nꞿ\nꟁ\nꟁ\nꟃ\nꟃ",
    "ꞔ\nʂ\nᶎ\nꟈ\nꟈ\nꟊ"]⟩,
  ⟨0xa7d0, ["ꟑ"]⟩,
  ⟨0xa7d6, ["ꟗ\nꟗ\nꟙ"]⟩,
  ⟨0xa7f5, ["ꟶ"]⟩,
  ⟨0xfb00, ["ff\nfi\nfl\nffi\nffl\nst\nst"]⟩,
  ⟨0xfb13, ["մն\nմե\nմի\nվն\nմխ"]⟩,
  ⟨0xff21, ["ａ\nｂ\nｃ\nｄ\nｅ\nｆ\nｇ\nｈ\nｉ\nｊ\nｋ\nｌ\nｍ\nｎ\nｏ\nｐ\nｑ\nｒ\nｓ\nｔ\nｕ\nｖ\nｗ\nｘ\nｙ\nｚ"]⟩,
  ⟨0x10400, ["𐐨\n𐐩\n𐐪\n𐐫\n𐐬\n𐐭\n𐐮\n𐐯\n𐐰\n𐐱\n𐐲\n𐐳\n𐐴\n𐐵\n𐐶\n𐐷\n𐐸\n𐐹\n𐐺\n𐐻\n𐐼\n𐐽\n𐐾\n𐐿\n𐑀\n𐑁\n𐑂",
    "𐑃\n𐑄\n𐑅\n𐑆\n𐑇\n𐑈\n𐑉\n𐑊\n𐑋\n𐑌\n𐑍\n𐑎\n𐑏"]⟩,
  ⟨0x104b0, ["𐓘\n𐓙\n𐓚\n𐓛\n𐓜\n𐓝\n𐓞\n𐓟\n𐓠\n𐓡\n𐓢\n𐓣\n𐓤\n𐓥\n𐓦\n𐓧\n𐓨\n𐓩\n𐓪\n𐓫\n𐓬\n𐓭\n𐓮\n𐓯\n𐓰\n𐓱\n𐓲",
    "𐓳\n𐓴\n𐓵\n𐓶\n𐓷\n𐓸\n𐓹\n𐓺\n𐓻"]⟩,
  ⟨0x10570, ["𐖗\n𐖘\n𐖙\n𐖚\n𐖛\n𐖜\n𐖝\n𐖞\n𐖟\n𐖠\n𐖡\n𐕻\n𐖣\n𐖤\n𐖥\n𐖦\n𐖧\n𐖨\n𐖩\n𐖪\n𐖫\n𐖬\n𐖭\n𐖮\n𐖯\n𐖰\n𐖱",
    "𐖋\n𐖳\n𐖴\n𐖵\n𐖶\n𐖷\n𐖸\n𐖹\n𐖓\n𐖻\n𐖼"]⟩,
  ⟨0x10c80, ["𐳀\n𐳁\n𐳂\n𐳃\n𐳄\n𐳅\n𐳆\n𐳇\n𐳈\n𐳉\n𐳊\n𐳋\n𐳌\n𐳍\n𐳎\n𐳏\n𐳐\n𐳑\n𐳒\n𐳓\n𐳔\n𐳕\n𐳖\n𐳗\n𐳘\n𐳙\n𐳚",
    "𐳛\n𐳜\n𐳝\n𐳞\n𐳟\n𐳠\n𐳡\n𐳢\n𐳣\n𐳤\n𐳥\n𐳦\n𐳧\n𐳨\n𐳩\n𐳪\n𐳫\n𐳬\n𐳭\n𐳮\n𐳯\n𐳰\n𐳱\n𐳲"]⟩,
  ⟨0x118a0, ["𑣀\n𑣁\n𑣂\n𑣃\n𑣄\n𑣅\n𑣆\n𑣇\n𑣈\n𑣉\n𑣊\n𑣋\n𑣌\n𑣍\n𑣎\n𑣏\n𑣐\n𑣑\n𑣒\n𑣓\n𑣔\n𑣕\n𑣖\n𑣗\n𑣘\n𑣙\n𑣚",
    "𑣛\n𑣜\n𑣝\n𑣞\n𑣟"]⟩,
  ⟨0x16e40, ["𖹠\n𖹡\n𖹢\n𖹣\n𖹤\n𖹥\n𖹦\n𖹧\n𖹨\n𖹩\n𖹪\n𖹫\n𖹬\n𖹭\n𖹮\n𖹯\n𖹰\n𖹱\n𖹲\n𖹳\n𖹴\n𖹵\n𖹶\n𖹷\n𖹸\n𖹹\n𖹺",
    "𖹻\n𖹼\n𖹽\n𖹾\n𖹿"]⟩,
  ⟨0x1d400, ["a\nb\nc\nd\ne\nf\ng\nh\ni\nj\nk\nl\nm\nn\no\np\nq\nr\ns\nt\nu\nv\nw\nx\ny\nz"]⟩,
  ⟨0x1d434, ["a\nb\nc\nd\ne\nf\ng\nh\ni\nj\nk\nl\nm\nn\no\np\nq\nr\ns\nt\nu\nv\nw\nx\ny\nz"]⟩,
  ⟨0x1d468, ["a\nb\nc\nd\ne\nf\ng\nh\ni\nj\nk\nl\nm\nn\no\np\nq\nr\ns\nt\nu\nv\nw\nx\ny\nz"]⟩,
  ⟨0x1d49c, ["a\n𝒝\nc\nd\n𝒠\n𝒡\ng\n𝒣\n𝒤\nj\nk\n𝒧\n𝒨\nn\no\np\nq\n𝒭\ns\nt\nu\nv\nw\nx\ny\nz"]⟩,
  ⟨0x1d4d0, ["a\nb\nc\nd\ne\nf\ng\nh\ni\nj\nk\nl\nm\nn\no\np\nq\nr\ns\nt\nu\nv\nw\nx\ny\nz"]⟩,
  ⟨0x1d504, ["a\nb\n𝔆\nd\ne\nf\ng\n𝔋\n𝔌\nj\nk\nl\nm\nn\no\np\nq\n𝔕\ns\nt\nu\nv\nw\nx\ny"]⟩,
  ⟨0x1d538, ["a\nb\n𝔺\nd\ne\nf\ng\n𝔿\ni\nj\nk\nl\nm\n𝕅\no\n𝕇\n𝕈\n𝕉\ns\nt\nu\nv\nw\nx\ny"]⟩,
  ⟨0x1d56c, ["a\nb\nc\nd\ne\nf\ng\nh\ni\nj\nk\nl\nm\nn\no\np\nq\nr\ns\nt\nu\nv\nw\nx\ny\nz"]⟩,
  ⟨0x1d5a0, ["a\nb\nc\nd\ne\nf\ng\nh\ni\nj\nk\nl\nm\nn\no\np\nq\nr\ns\nt\nu\nv\nw\nx\ny\nz"]⟩,
  ⟨0x1d5d4, ["a\nb\nc\nd\ne\nf\ng\nh\ni\nj\nk\nl\nm\nn\no\np\nq\nr\ns\nt\nu\nv\nw\nx\ny\nz"]⟩,
  ⟨0x1d608, ["a\nb\nc\nd\ne\nf\ng\nh\ni\nj\nk\nl\nm\nn\no\np\nq\nr\ns\nt\nu\nv\nw\nx\ny\nz"]⟩,
  ⟨0x1d63c, ["a\nb\nc\nd\ne\nf\ng\nh\ni\nj\nk\nl\nm\nn\no\np\nq\nr\ns\nt\nu\nv\nw\nx\ny\nz"]⟩,
  ⟨0x1d670, ["a\nb\nc\nd\ne\nf\ng\nh\ni\nj\nk\nl\nm\nn\no\np\nq\nr\ns\nt\nu\nv\nw\nx\ny\nz"]⟩,
  ⟨0x1d6a8, ["α\nβ\nγ\nδ\nε\nζ\nη\nθ\nι\nκ\nλ\nμ\nν\nξ\nο\nπ\nρ\nθ\nσ\nτ\nυ\nφ\nχ\nψ\nω"]⟩,
  ⟨0x1d6d3, ["σ"]⟩,
  ⟨0x1d6e2, ["α\nβ\nγ\nδ\nε\nζ\nη\nθ\nι\nκ\nλ\nμ\nν\nξ\nο\nπ\nρ\nθ\nσ\nτ\nυ\nφ\nχ\nψ\nω"]⟩,
  ⟨0x1d70d, ["σ"]⟩,
  ⟨0x1d71c, ["α\nβ\nγ\nδ\nε\nζ\nη\nθ\nι\nκ\nλ\nμ\nν\nξ\nο\nπ\nρ\nθ\nσ\nτ\nυ\nφ\nχ\nψ\nω"]⟩,
  ⟨0x1d747, ["σ"]⟩,
  ⟨0x1d756, ["α\nβ\nγ\nδ\nε\nζ\nη\nθ\nι\nκ\nλ\nμ\nν\nξ\nο\nπ\nρ\nθ\nσ\nτ\nυ\nφ\nχ\nψ\nω"]⟩,
  ⟨0x1d781, ["σ"]⟩,
  ⟨0x1d790, ["α\nβ\nγ\nδ\nε\nζ\nη\nθ\nι\nκ\nλ\nμ\nν\nξ\nο\nπ\nρ\nθ\nσ\nτ\nυ\nφ\nχ\nψ\nω"]⟩,
  ⟨0x1d7bb, ["σ"]⟩,
  ⟨0x1e900, ["𞤢\n𞤣\n𞤤\n𞤥\n𞤦\n𞤧\n𞤨\n𞤩\n𞤪\n𞤫\n𞤬\n𞤭\n𞤮\n𞤯\n𞤰\n𞤱\n𞤲\n𞤳\n𞤴\n𞤵\n𞤶\n𞤷\n𞤸\n𞤹\n𞤺\n𞤻\n𞤼",
    "𞤽\n𞤾\n𞤿\n𞥀\n𞥁\n𞥂\n𞥃"]⟩]

/-- Characters that no name has. -/
def refusedRanges : CodeRanges := [
  (0x80, 0xa0), (0x340, 0x341), (0x6dd, 0x6dd), (0x70f, 0x70f), (0x1680, 0x1680), (0x180e, 0x180e),
  (0x2000, 0x200f), (0x2028, 0x202f), (0x205f, 0x2063), (0x206a, 0x206f), (0x2ff0, 0x2ffb),
  (0x3000, 0x3000), (0xd800, 0xf8ff), (0xfdd0, 0xfdef), (0xfeff, 0xfeff), (0xfff9, 0xffff),
  (0x1d173, 0x1d17a), (0x1fffe, 0x1ffff), (0x2fffe, 0x2ffff), (0x3fffe, 0x3ffff),
  (0x4fffe, 0x4ffff), (0x5fffe, 0x5ffff), (0x6fffe, 0x6ffff), (0x7fffe, 0x7ffff),
  (0x8fffe, 0x8ffff), (0x9fffe, 0x9ffff), (0xafffe, 0xaffff), (0xbfffe, 0xbffff),
  (0xcfffe, 0xcffff), (0xdfffe, 0xdffff), (0xe0001, 0xe0001), (0xe0020, 0xe007f),
  (0xefffe, 0x10ffff)]

/-- Characters that are written from right to left. -/
def rightToLeftRanges : CodeRanges := [
  (0x5be, 0x5be), (0x5c0, 0x5c0), (0x5c3, 0x5c3), (0x5d0, 0x5ea), (0x5f0, 0x5f4), (0x61b, 0x61b),
  (0x61f, 0x61f), (0x621, 0x63a), (0x640, 0x64a), (0x66d, 0x66f), (0x671, 0x6d5), (0x6dd, 0x6dd),
  (0x6e5, 0x6e6), (0x6fa, 0x6fe), (0x700, 0x70d), (0x710, 0x710), (0x712, 0x72c), (0x780, 0x7a5),
  (0x7b1, 0x7b1), (0x200f, 0x200f), (0xfb1d, 0xfb1d), (0xfb1f, 0xfb28), (0xfb2a, 0xfb36),
  (0xfb38, 0xfb3c), (0xfb3e, 0xfb3e), (0xfb40, 0xfb41), (0xfb43, 0xfb44), (0xfb46, 0xfbb1),
  (0xfbd3, 0xfd3d), (0xfd50, 0xfd8f), (0xfd92, 0xfdc7), (0xfdf0, 0xfdfc), (0xfe70, 0xfe74),
  (0xfe76, 0xfefc)]

/-- Characters that are written from left to right. -/
def leftToRightRanges : CodeRanges := [
  (0x41, 0x5a), (0x61, 0x7a), (0xaa, 0xaa), (0xb5, 0xb5), (0xba, 0xba), (0xc0, 0xd6), (0xd8, 0xf6),
  (0xf8, 0x220), (0x222, 0x233), (0x250, 0x2ad), (0x2b0, 0x2b8), (0x2bb, 0x2c1), (0x2d0, 0x2d1),
  (0x2e0, 0x2e4), (0x2ee, 0x2ee), (0x37a, 0x37a), (0x386, 0x386), (0x388, 0x38a), (0x38c, 0x38c),
  (0x38e, 0x3a1), (0x3a3, 0x3ce), (0x3d0, 0x3f5), (0x400, 0x482), (0x48a, 0x4ce), (0x4d0, 0x4f5),
  (0x4f8, 0x4f9), (0x500, 0x50f), (0x531, 0x556), (0x559, 0x55f), (0x561, 0x587), (0x589, 0x589),
  (0x903, 0x903), (0x905, 0x939), (0x93d, 0x940), (0x949, 0x94c), (0x950, 0x950), (0x958, 0x961),
  (0x964, 0x970), (0x982, 0x983), (0x985, 0x98c), (0x98f, 0x990), (0x993, 0x9a8), (0x9aa, 0x9b0),
  (0x9b2, 0x9b2), (0x9b6, 0x9b9), (0x9be, 0x9c0), (0x9c7, 0x9c8), (0x9cb, 0x9cc), (0x9d7, 0x9d7),
  (0x9dc, 0x9dd), (0x9df, 0x9e1), (0x9e6, 0x9f1), (0x9f4, 0x9fa), (0xa05, 0xa0a), (0xa0f, 0xa10),
  (0xa13, 0xa28), (0xa2a, 0xa30), (0xa32, 0xa33), (0xa35, 0xa36), (0xa38, 0xa39), (0xa3e, 0xa40),
  (0xa59, 0xa5c), (0xa5e, 0xa5e), (0xa66, 0xa6f), (0xa72, 0xa74), (0xa83, 0xa83), (0xa85, 0xa8b),
  (0xa8d, 0xa8d), (0xa8f, 0xa91), (0xa93, 0xaa8), (0xaaa, 0xab0), (0xab2, 0xab3), (0xab5, 0xab9),
  (0xabd, 0xac0), (0xac9, 0xac9), (0xacb, 0xacc), (0xad0, 0xad0), (0xae0, 0xae0), (0xae6, 0xaef),
  (0xb02, 0xb03), (0xb05, 0xb0c), (0xb0f, 0xb10), (0xb13, 0xb28), (0xb2a, 0xb30), (0xb32, 0xb33),
  (0xb36, 0xb39), (0xb3d, 0xb3e), (0xb40, 0xb40), (0xb47, 0xb48), (0xb4b, 0xb4c), (0xb57, 0xb57),
  (0xb5c, 0xb5d), (0xb5f, 0xb61), (0xb66, 0xb70), (0xb83, 0xb83), (0xb85, 0xb8a), (0xb8e, 0xb90),
  (0xb92, 0xb95), (0xb99, 0xb9a), (0xb9c, 0xb9c), (0xb9e, 0xb9f), (0xba3, 0xba4), (0xba8, 0xbaa),
  (0xbae, 0xbb5), (0xbb7, 0xbb9), (0xbbe, 0xbbf), (0xbc1, 0xbc2), (0xbc6, 0xbc8), (0xbca, 0xbcc),
  (0xbd7, 0xbd7), (0xbe7, 0xbf2), (0xc01, 0xc03), (0xc05, 0xc0c), (0xc0e, 0xc10), (0xc12, 0xc28),
  (0xc2a, 0xc33), (0xc35, 0xc39), (0xc41, 0xc44), (0xc60, 0xc61), (0xc66, 0xc6f), (0xc82, 0xc83),
  (0xc85, 0xc8c), (0xc8e, 0xc90), (0xc92, 0xca8), (0xcaa, 0xcb3), (0xcb5, 0xcb9), (0xcbe, 0xcbe),
  (0xcc0, 0xcc4), (0xcc7, 0xcc8), (0xcca, 0xccb), (0xcd5, 0xcd6), (0xcde, 0xcde), (0xce0, 0xce1),
  (0xce6, 0xcef), (0xd02, 0xd03), (0xd05, 0xd0c), (0xd0e, 0xd10), (0xd12, 0xd28), (0xd2a, 0xd39),
  (0xd3e, 0xd40), (0xd46, 0xd48), (0xd4a, 0xd4c), (0xd57, 0xd57), (0xd60, 0xd61), (0xd66, 0xd6f),
  (0xd82, 0xd83), (0xd85, 0xd96), (0xd9a, 0xdb1), (0xdb3, 0xdbb), (0xdbd, 0xdbd), (0xdc0, 0xdc6),
  (0xdcf, 0xdd1), (0xdd8, 0xddf), (0xdf2, 0xdf4), (0xe01, 0xe30), (0xe32, 0xe33), (0xe40, 0xe46),
  (0xe4f, 0xe5b), (0xe81, 0xe82), (0xe84, 0xe84), (0xe87, 0xe88), (0xe8a, 0xe8a), (0xe8d, 0xe8d),
  (0xe94, 0xe97), (0xe99, 0xe9f), (0xea1, 0xea3), (0xea5, 0xea5), (0xea7, 0xea7), (0xeaa, 0xeab),
  (0xead, 0xeb0), (0xeb2, 0xeb3), (0xebd, 0xebd), (0xec0, 0xec4), (0xec6, 0xec6), (0xed0, 0xed9),
  (0xedc, 0xedd), (0xf00, 0xf17), (0xf1a, 0xf34), (0xf36, 0xf36), (0xf38, 0xf38), (0xf3e, 0xf47),
  (0xf49, 0xf6a), (0xf7f, 0xf7f), (0xf85, 0xf85), (0xf88, 0xf8b), (0xfbe, 0xfc5), (0xfc7, 0xfcc),
  (0xfcf, 0xfcf), (0x1000, 0x1021), (0x1023, 0x1027), (0x1029, 0x102a), (0x102c, 0x102c),
  (0x1031, 0x1031), (0x1038, 0x1038), (0x1040, 0x1057), (0x10a0, 0x10c5), (0x10d0, 0x10f8),
  (0x10fb, 0x10fb), (0x1100, 0x1159), (0x115f, 0x11a2), (0x11a8, 0x11f9), (0x1200, 0x1206),
  (0x1208, 0x1246), (0x1248, 0x1248), (0x124a, 0x124d), (0x1250, 0x1256), (0x1258, 0x1258),
  (0x125a, 0x125d), (0x1260, 0x1286), (0x1288, 0x1288), (0x128a, 0x128d), (0x1290, 0x12ae),
  (0x12b0, 0x12b0), (0x12b2, 0x12b5), (0x12b8, 0x12be), (0x12c0, 0x12c0), (0x12c2, 0x12c5),
  (0x12c8, 0x12ce), (0x12d0, 0x12d6), (0x12d8, 0x12ee), (0x12f0, 0x130e), (0x1310, 0x1310),
  (0x1312, 0x1315), (0x1318, 0x131e), (0x1320, 0x1346), (0x1348, 0x135a), (0x1361, 0x137c),
  (0x13a0, 0x13f4), (0x1401, 0x1676), (0x1681, 0x169a), (0x16a0, 0x16f0), (0x1700, 0x170c),
  (0x170e, 0x1711), (0x1720, 0x1731), (0x1735, 0x1736), (0x1740, 0x1751), (0x1760, 0x176c),
  (0x176e, 0x1770), (0x1780, 0x17b6), (0x17be, 0x17c5), (0x17c7, 0x17c8), (0x17d4, 0x17da),
  (0x17dc, 0x17dc), (0x17e0, 0x17e9), (0x1810, 0x1819), (0x1820, 0x1877), (0x1880, 0x18a8),
  (0x1e00, 0x1e9b), (0x1ea0, 0x1ef9), (0x1f00, 0x1f15), (0x1f18, 0x1f1d), (0x1f20, 0x1f45),
  (0x1f48, 0x1f4d), (0x1f50, 0x1f57), (0x1f59, 0x1f59), (0x1f5b, 0x1f5b), (0x1f5d, 0x1f5d),
  (0x1f5f, 0x1f7d), (0x1f80, 0x1fb4), (0x1fb6, 0x1fbc), (0x1fbe, 0x1fbe), (0x1fc2, 0x1fc4),
  (0x1fc6, 0x1fcc), (0x1fd0, 0x1fd3), (0x1fd6, 0x1fdb), (0x1fe0, 0x1fec), (0x1ff2, 0x1ff4),
  (0x1ff6, 0x1ffc), (0x200e, 0x200e), (0x2071, 0x2071), (0x207f, 0x207f), (0x2102, 0x2102),
  (0x2107, 0x2107), (0x210a, 0x2113), (0x2115, 0x2115), (0x2119, 0x211d), (0x2124, 0x2124),
  (0x2126, 0x2126), (0x2128, 0x2128), (0x212a, 0x212d), (0x212f, 0x2131), (0x2133, 0x2139),
  (0x213d, 0x213f), (0x2145, 0x2149), (0x2160, 0x2183), (0x2336, 0x237a), (0x2395, 0x2395),
  (0x249c, 0x24e9), (0x3005, 0x3007), (0x3021, 0x3029), (0x3031, 0x3035), (0x3038, 0x303c),
  (0x3041, 0x3096), (0x309d, 0x309f), (0x30a1, 0x30fa), (0x30fc, 0x30ff), (0x3105, 0x312c),
  (0x3131, 0x318e), (0x3190, 0x31b7), (0x31f0, 0x321c), (0x3220, 0x3243), (0x3260, 0x327b),
  (0x327f, 0x32b0), (0x32c0, 0x32cb), (0x32d0, 0x32fe), (0x3300, 0x3376), (0x337b, 0x33dd),
  (0x33e0, 0x33fe), (0x3400, 0x4db5), (0x4e00, 0x9fa5), (0xa000, 0xa48c), (0xac00, 0xd7a3),
  (0xd800, 0xfa2d), (0xfa30, 0xfa6a), (0xfb00, 0xfb06), (0xfb13, 0xfb17), (0xff21, 0xff3a),
  (0xff41, 0xff5a), (0xff66, 0xffbe), (0xffc2, 0xffc7), (0xffca, 0xffcf), (0xffd2, 0xffd7),
  (0xffda, 0xffdc), (0x10300, 0x1031e), (0x10320, 0x10323), (0x10330, 0x1034a), (0x10400, 0x10425),
  (0x10428, 0x1044d), (0x1d000, 0x1d0f5), (0x1d100, 0x1d126), (0x1d12a, 0x1d166),
  (0x1d16a, 0x1d172), (0x1d183, 0x1d184), (0x1d18c, 0x1d1a9), (0x1d1ae, 0x1d1dd),
  (0x1d400, 0x1d454), (0x1d456, 0x1d49c), (0x1d49e, 0x1d49f), (0x1d4a2, 0x1d4a2),
  (0x1d4a5, 0x1d4a6), (0x1d4a9, 0x1d4ac), (0x1d4ae, 0x1d4b9), (0x1d4bb, 0x1d4bb),
  (0x1d4bd, 0x1d4c0), (0x1d4c2, 0x1d4c3), (0x1d4c5, 0x1d505), (0x1d507, 0x1d50a),
  (0x1d50d, 0x1d514), (0x1d516, 0x1d51c), (0x1d51e, 0x1d539), (0x1d53b, 0x1d53e),
  (0x1d540, 0x1d544), (0x1d546, 0x1d546), (0x1d54a, 0x1d550), (0x1d552, 0x1d6a3),
  (0x1d6a8, 0x1d7c9), (0x20000, 0x2a6d6), (0x2f800, 0x2fa1d), (0xf0000, 0xffffd),
  (0x100000, 0x10fffd)]

end Telematics.Text
