import Telematics.Text.CharacterName.Basic

/-!
Names of characters: the signs and letters of East Asia, and the scripts of India and its
neighbours.
-/

namespace Telematics.Text

/-- The signs and letters of East Asia. -/
def eastAsianNames : List NameRun := [
  ⟨0x2e80, ["0CJK RADICAL REPEAT/2CLIFF/2SECOND ONE/3TWO/3THREE/2PERSON/2BOX/2TABLE/2KNIFE ONE",
    "3TWO/2DIVINATION/2SEAL/2SMALL ONE/3TWO/2LAME ONE/3TWO/3THREE/3FOUR/2SNAKE/2THREAD",
    "2SNOUT ONE/3TWO/2HEART ONE/3TWO/2HAND/2RAP"]⟩,
  ⟨0x2e9b, ["0CJK RADICAL CHOKE/2SUN/2MOON/2DEATH/2MOTHER/2CIVILIAN/2WATER ONE/3TWO/2FIRE",
    "2PAW ONE/3TWO/2SIMPLIFIED HALF TREE TRUNK/2COW/2DOG/2JADE/2BOLT OF CLOTH/2EYE/2SPIRIT ONE",
    "3TWO/2BAMBOO/2SILK/2C-SIMPLIFIED SILK/2NET ONE/3TWO/3THREE/3FOUR/2MESH/2SHEEP/2RAM/2EWE",
    "2OLD/2BRUSH ONE/3TWO/2MEAT/2MORTAR/2GRASS ONE/3TWO/3THREE/2TIGER/2CLOTHES/2WEST ONE/3TWO",
    "2C-SIMPLIFIED SEE/2SIMPLIFIED HORN/2HORN/2C-SIMPLIFIED SPEECH/3SHELL/2FOOT",
    "2C-SIMPLIFIED CART/2SIMPLIFIED WALK/2WALK ONE/3TWO/2CITY/2C-SIMPLIFIED GOLD/2LONG ONE/3TWO",
    "2C-SIMPLIFIED LONG/3GATE/2MOUND ONE/3TWO/2RAIN/2BLUE/2C-SIMPLIFIED TANNED LEATHER/3LEAF",
    "3WIND/3FLY/2EAT ONE/3TWO/3THREE/2C-SIMPLIFIED EAT/2HEAD/2C-SIMPLIFIED HORSE/2BONE/2GHOST",
    "2C-SIMPLIFIED FISH/3BIRD/3SALT/2SIMPLIFIED WHEAT/3YELLOW/2C-SIMPLIFIED FROG",
    "2J-SIMPLIFIED EVEN/2C-SIMPLIFIED EVEN/2J-SIMPLIFIED TOOTH/2C-SIMPLIFIED TOOTH",
    "2J-SIMPLIFIED DRAGON/2C-SIMPLIFIED DRAGON/2TURTLE/2J-SIMPLIFIED TURTLE/2C-SIMPLIFIED TURTLE"]⟩,
  ⟨0x2f00, ["0KANGXI RADICAL ONE/2LINE/2DOT/2SLASH/2SECOND/2HOOK/2TWO/2LID/2MAN/2LEGS/2ENTER",
    "2EIGHT/2DOWN BOX/2COVER/2ICE/2TABLE/2OPEN BOX/2KNIFE/2POWER/2WRAP/2SPOON/2RIGHT OPEN BOX",
    "2HIDING ENCLOSURE/2TEN/2DIVINATION/2SEAL/2CLIFF/2PRIVATE/2AGAIN/2MOUTH/2ENCLOSURE/2EARTH",
    "2SCHOLAR/2GO/3SLOWLY/2EVENING/2BIG/2WOMAN/2CHILD/2ROOF/2INCH/2SMALL/2LAME/2CORPSE/2SPROUT",
    "2MOUNTAIN/2RIVER/2WORK/2ONESELF/2TURBAN/2DRY/2SHORT THREAD/2DOTTED CLIFF/2LONG STRIDE",
    "2TWO HANDS/2SHOOT/2BOW/2SNOUT/2BRISTLE/2STEP/2HEART/2HALBERD/2DOOR/2HAND/2BRANCH/2RAP",
    "2SCRIPT/2DIPPER/2AXE/2SQUARE/2NOT/2SUN/2SAY/2MOON/2TREE/2LACK/2STOP/2DEATH/2WEAPON/2DO NOT",
    "2COMPARE/2FUR/2CLAN/2STEAM/2WATER/2FIRE/2CLAW/2FATHER/2DOUBLE X/2HALF TREE TRUNK/2SLICE",
    "2FANG/2COW/2DOG/2PROFOUND/2JADE/2MELON/2TILE/2SWEET/2LIFE/2USE/2FIELD/2BOLT OF CLOTH",
    "2SICKNESS/2DOTTED TENT/2WHITE/2SKIN/2DISH/2EYE/2SPEAR/2ARROW/2STONE/2SPIRIT/2TRACK/2GRAIN",
    "2CAVE/2STAND/2BAMBOO/2RICE/2SILK/2JAR/2NET/2SHEEP/2FEATHER/2OLD/2AND/2PLOW/2EAR/2BRUSH",
    "2MEAT/2MINISTER/2SELF/2ARRIVE/2MORTAR/2TONGUE/2OPPOSE/2BOAT/2STOPPING/2COLOR/2GRASS/2TIGER",
    "2INSECT/2BLOOD/2WALK ENCLOSURE/2CLOTHES/2WEST/2SEE/2HORN/2SPEECH/2VALLEY/2BEAN/2PIG/2BADGER",
    "2SHELL/2RED/2RUN/2FOOT/2BODY/2CART/2BITTER/2MORNING/2WALK/2CITY/2WINE/2DISTINGUISH/2VILLAGE",
    "2GOLD/2LONG/2GATE/2MOUND/2SLAVE/2SHORT TAILED BIRD/2RAIN/2BLUE/2WRONG/2FACE/2LEATHER",
    "2TANNED LEATHER/2LEEK/2SOUND/2LEAF/2WIND/2FLY/2EAT/2HEAD/2FRAGRANT/2HORSE/2BONE/2TALL/2HAIR",
    "2FIGHT/2SACRIFICIAL WINE/2CAULDRON/2GHOST/2FISH/2BIRD/2SALT/2DEER/2WHEAT/2HEMP/2YELLOW",
    "2MILLET/2BLACK/2EMBROIDERY/2FROG/2TRIPOD/2DRUM/2RAT/2NOSE/2EVEN/2TOOTH/2DRAGON/2TURTLE",
    "2FLUTE"]⟩,
  ⟨0x2ff0, ["0IDEOGRAPHIC DESCRIPTION CHARACTER LEFT TO RIGHT/3ABOVE TO BELOW",
    "3LEFT TO MIDDLE AND RIGHT/3ABOVE TO MIDDLE AND BELOW/3FULL SURROUND/3SURROUND FROM ABOVE",
    "5BELOW/5LEFT/5UPPER LEFT/6RIGHT/5LOWER LEFT/3OVERLAID"]⟩,
  ⟨0x3000, ["0IDEOGRAPHIC SPACE/1COMMA/1FULL STOP/0DITTO MARK",
    "0JAPANESE INDUSTRIAL STANDARD SYMBOL/0IDEOGRAPHIC ITERATION MARK/1CLOSING MARK/1NUMBER ZERO",
    "0LEFT ANGLE BRACKET/0RIGHT ANGLE BRACKET/0LEFT DOUBLE ANGLE BRACKET",
    "0RIGHT DOUBLE ANGLE BRACKET/0LEFT CORNER BRACKET/0RIGHT CORNER BRACKET",
    "0LEFT WHITE CORNER BRACKET/0RIGHT WHITE CORNER BRACKET/0LEFT BLACK LENTICULAR BRACKET",
    "0RIGHT BLACK LENTICULAR BRACKET/0POSTAL MARK/0GETA MARK/0LEFT TORTOISE SHELL BRACKET",
    "0RIGHT TORTOISE SHELL BRACKET/0LEFT WHITE LENTICULAR BRACKET",
    "0RIGHT WHITE LENTICULAR BRACKET/0LEFT WHITE TORTOISE SHELL BRACKET",
    "0RIGHT WHITE TORTOISE SHELL BRACKET/0LEFT WHITE SQUARE BRACKET/0RIGHT WHITE SQUARE BRACKET",
    "0WAVE DASH/0REVERSED DOUBLE PRIME QUOTATION MARK/0DOUBLE PRIME QUOTATION MARK",
    "0LOW DOUBLE PRIME QUOTATION MARK/0POSTAL MARK FACE/0HANGZHOU NUMERAL ONE/2TWO/2THREE/2FOUR",
    "2FIVE/2SIX/2SEVEN/2EIGHT/2NINE/0IDEOGRAPHIC LEVEL TONE MARK/1RISING TONE MARK",
    "1DEPARTING TONE MARK/1ENTERING TONE MARK/0HANGUL SINGLE DOT TONE MARK/1DOUBLE DOT TONE MARK",
    "0WAVY DASH/0VERTICAL KANA REPEAT MARK/3WITH VOICED SOUND MARK/3MARK UPPER HALF",
    "3WITH VOICED SOUND MARK UPPER HALF/3MARK LOWER HALF/0CIRCLED POSTAL MARK",
    "0IDEOGRAPHIC TELEGRAPH LINE FEED SEPARATOR SYMBOL/0HANGZHOU NUMERAL TEN/2TWENTY/2THIRTY",
    "0VERTICAL IDEOGRAPHIC ITERATION MARK/0MASU MARK/0PART ALTERNATION MARK",
    "0IDEOGRAPHIC VARIATION INDICATOR/1HALF FILL SPACE"]⟩,
  ⟨0x3041, ["0HIRAGANA LETTER SMALL A/2A/2SMALL I/2I/2SMALL U/2U/2SMALL E/2E/2SMALL O/2O/2KA",
    "2GA/2KI/2GI/2KU/2GU/2KE/2GE/2KO/2GO/2SA/2ZA/2SI/2ZI/2SU/2ZU/2SE/2ZE/2SO/2ZO/2TA/2DA/2TI/2DI",
    "2SMALL TU/2TU/2DU/2TE/2DE/2TO/2DO/2NA/2NI/2NU/2NE/2NO/2HA/2BA/2PA/2HI/2BI/2PI/2HU/2BU/2PU",
    "2HE/2BE/2PE/2HO/2BO/2PO/2MA/2MI/2MU/2ME/2MO/2SMALL YA/2YA/2SMALL YU/2YU/2SMALL YO/2YO/2RA",
    "2RI/2RU/2RE/2RO/2SMALL WA/2WA/2WI/2WE/2WO/2N/2VU/2SMALL KA/3KE"]⟩,
  ⟨0x3099, ["0COMBINING KATAKANA-HIRAGANA VOICED SOUND MARK/2SEMI-VOICED SOUND MARK",
    "0KATAKANA-HIRAGANA VOICED SOUND MARK/1SEMI-VOICED SOUND MARK/0HIRAGANA ITERATION MARK",
    "1VOICED ITERATION MARK/1DIGRAPH YORI/0KATAKANA-HIRAGANA DOUBLE HYPHEN",
    "0KATAKANA LETTER SMALL A/2A/2SMALL I/2I/2SMALL U/2U/2SMALL E/2E/2SMALL O/2O/2KA/2GA/2KI/2GI",
    "2KU/2GU/2KE/2GE/2KO/2GO/2SA/2ZA/2SI/2ZI/2SU/2ZU/2SE/2ZE/2SO/2ZO/2TA/2DA/2TI/2DI/2SMALL TU",
    "2TU/2DU/2TE/2DE/2TO/2DO/2NA/2NI/2NU/2NE/2NO/2HA/2BA/2PA/2HI/2BI/2PI/2HU/2BU/2PU/2HE/2BE/2PE",
    "2HO/2BO/2PO/2MA/2MI/2MU/2ME/2MO/2SMALL YA/2YA/2SMALL YU/2YU/2SMALL YO/2YO/2RA/2RI/2RU/2RE",
    "2RO/2SMALL WA/2WA/2WI/2WE/2WO/2N/2VU/2SMALL KA/3KE/2VA/2VI/2VE/2VO/1MIDDLE DOT",
    "0KATAKANA-HIRAGANA PROLONGED SOUND MARK/0KATAKANA ITERATION MARK/1VOICED ITERATION MARK",
    "1DIGRAPH KOTO"]⟩,
  ⟨0x3105, ["0BOPOMOFO LETTER B/2P/2M/2F/2D/2T/2N/2L/2G/2K/2H/2J/2Q/2X/2ZH/2CH/2SH/2R/2Z/2C/2S",
    "2A/2O/2E/2EH/2AI/2EI/2AU/2OU/2AN/2EN/2ANG/2ENG/2ER/2I/2U/2IU/2V/2NG/2GN/2IH",
    "2O WITH DOT ABOVE/2NN"]⟩,
  ⟨0x3131, ["0HANGUL LETTER KIYEOK/2SSANGKIYEOK/2KIYEOK-SIOS/2NIEUN/2NIEUN-CIEUC/2NIEUN-HIEUH",
    "2TIKEUT/2SSANGTIKEUT/2RIEUL/2RIEUL-KIYEOK/2RIEUL-MIEUM/2RIEUL-PIEUP/2RIEUL-SIOS",
    "2RIEUL-THIEUTH/2RIEUL-PHIEUPH/2RIEUL-HIEUH/2MIEUM/2PIEUP/2SSANGPIEUP/2PIEUP-SIOS/2SIOS",
    "2SSANGSIOS/2IEUNG/2CIEUC/2SSANGCIEUC/2CHIEUCH/2KHIEUKH/2THIEUTH/2PHIEUPH/2HIEUH/2A/2AE/2YA",
    "2YAE/2EO/2E/2YEO/2YE/2O/2WA/2WAE/2OE/2YO/2U/2WEO/2WE/2WI/2YU/2EU/2YI/2I/1FILLER",
    "1LETTER SSANGNIEUN/2NIEUN-TIKEUT/2NIEUN-SIOS/2NIEUN-PANSIOS/2RIEUL-KIYEOK-SIOS",
    "2RIEUL-TIKEUT/2RIEUL-PIEUP-SIOS/2RIEUL-PANSIOS/2RIEUL-YEORINHIEUH/2MIEUM-PIEUP/2MIEUM-SIOS",
    "2MIEUM-PANSIOS/2KAPYEOUNMIEUM/2PIEUP-KIYEOK/2PIEUP-TIKEUT/2PIEUP-SIOS-KIYEOK",
    "2PIEUP-SIOS-TIKEUT/2PIEUP-CIEUC/2PIEUP-THIEUTH/2KAPYEOUNPIEUP/2KAPYEOUNSSANGPIEUP",
    "2SIOS-KIYEOK/2SIOS-NIEUN/2SIOS-TIKEUT/2SIOS-PIEUP/2SIOS-CIEUC/2PANSIOS/2SSANGIEUNG",
    "2YESIEUNG/2YESIEUNG-SIOS/2YESIEUNG-PANSIOS/2KAPYEOUNPHIEUPH/2SSANGHIEUH/2YEORINHIEUH/2YO-YA",
    "2YO-YAE/2YO-I/2YU-YEO/2YU-YE/2YU-I/2ARAEA/2ARAEAE"]⟩,
  ⟨0x3190, ["0IDEOGRAPHIC ANNOTATION LINKING MARK/2REVERSE MARK/2ONE MARK/2TWO MARK/2THREE MARK",
    "2FOUR MARK/2TOP MARK/2MIDDLE MARK/2BOTTOM MARK/2FIRST MARK/2SECOND MARK/2THIRD MARK",
    "2FOURTH MARK/2HEAVEN MARK/2EARTH MARK/2MAN MARK/0BOPOMOFO LETTER BU/2ZI/2JI/2GU/2EE/2ENN",
    "2OO/2ONN/2IR/2ANN/2INN/2UNN/2IM/2NGG/2AINN/2AUNN/2AM/2OM/2ONG/2INNN/1FINAL LETTER P/3T/3K",
    "3H/1LETTER GH/2LH/2ZY/1FINAL LETTER G/1LETTER GW/2KW/2OE/2AH/0CJK STROKE T/2WG/2XG/2BXG/2SW",
    "2HZZ/2HZG/2HP/2HZWG/2SZWG/2HZT/2HZZP/2HPWG/2HZW/2HZZZ/2N/2H/2S/2P/2SP/2D/2HZ/2HG/2SZ/2SWZ",
    "2ST/2SG/2PD/2PZ/2TN/2SZZ/2SWG/2HXWG/2HZZZG/2PG/2Q"]⟩,
  ⟨0x31f0, ["0KATAKANA LETTER SMALL KU/3SI/3SU/3TO/3NU/3HA/3HI/3HU/3HE/3HO/3MU/3RA/3RI/3RU/3RE",
    "3RO/0PARENTHESIZED HANGUL KIYEOK/2NIEUN/2TIKEUT/2RIEUL/2MIEUM/2PIEUP/2SIOS/2IEUNG/2CIEUC",
    "2CHIEUCH/2KHIEUKH/2THIEUTH/2PHIEUPH/2HIEUH/2KIYEOK A/2NIEUN A/2TIKEUT A/2RIEUL A/2MIEUM A",
    "2PIEUP A/2SIOS A/2IEUNG A/2CIEUC A/2CHIEUCH A/2KHIEUKH A/2THIEUTH A/2PHIEUPH A/2HIEUH A",
    "2CIEUC U/1KOREAN CHARACTER OJEON/3O HU"]⟩,
  ⟨0x3220, ["0PARENTHESIZED IDEOGRAPH ONE/2TWO/2THREE/2FOUR/2FIVE/2SIX/2SEVEN/2EIGHT/2NINE/2TEN",
    "2MOON/2FIRE/2WATER/2WOOD/2METAL/2EARTH/2SUN/2STOCK/2HAVE/2SOCIETY/2NAME/2SPECIAL/2FINANCIAL",
    "2CONGRATULATION/2LABOR/2REPRESENT/2CALL/2STUDY/2SUPERVISE/2ENTERPRISE/2RESOURCE/2ALLIANCE",
    "2FESTIVAL/2REST/2SELF/2REACH/0CIRCLED IDEOGRAPH QUESTION/2KINDERGARTEN/2SCHOOL/2KOTO",
    "1NUMBER TEN ON BLACK SQUARE/2TWENTY ON BLACK SQUARE/2THIRTY ON BLACK SQUARE",
    "2FORTY ON BLACK SQUARE/2FIFTY ON BLACK SQUARE/2SIXTY ON BLACK SQUARE",
    "2SEVENTY ON BLACK SQUARE/2EIGHTY ON BLACK SQUARE/0PARTNERSHIP SIGN",
    "0CIRCLED NUMBER TWENTY ONE/3TWO/3THREE/3FOUR/3FIVE/3SIX/3SEVEN/3EIGHT/3NINE/2THIRTY/3ONE",
    "3TWO/3THREE/3FOUR/3FIVE/1HANGUL KIYEOK/2NIEUN/2TIKEUT/2RIEUL/2MIEUM/2PIEUP/2SIOS/2IEUNG",
    "2CIEUC/2CHIEUCH/2KHIEUKH/2THIEUTH/2PHIEUPH/2HIEUH/2KIYEOK A/2NIEUN A/2TIKEUT A/2RIEUL A",
    "2MIEUM A/2PIEUP A/2SIOS A/2IEUNG A/2CIEUC A/2CHIEUCH A/2KHIEUKH A/2THIEUTH A/2PHIEUPH A",
    "2HIEUH A/1KOREAN CHARACTER CHAMKO/3JUEUI/1HANGUL IEUNG U/0KOREAN STANDARD SYMBOL",
    "0CIRCLED IDEOGRAPH ONE/2TWO/2THREE/2FOUR/2FIVE/2SIX/2SEVEN/2EIGHT/2NINE/2TEN/2MOON/2FIRE",
    "2WATER/2WOOD/2METAL/2EARTH/2SUN/2STOCK/2HAVE/2SOCIETY/2NAME/2SPECIAL/2FINANCIAL",
    "2CONGRATULATION/2LABOR/2SECRET/2MALE/2FEMALE/2SUITABLE/2EXCELLENT/2PRINT/2ATTENTION/2ITEM",
    "2REST/2COPY/2CORRECT/2HIGH/2CENTRE/2LOW/2LEFT/2RIGHT/2MEDICINE/2RELIGION/2STUDY/2SUPERVISE",
    "2ENTERPRISE/2RESOURCE/2ALLIANCE/2NIGHT/1NUMBER THIRTY SIX/3SEVEN/3EIGHT/3NINE/2FORTY/3ONE",
    "3TWO/3THREE/3FOUR/3FIVE/3SIX/3SEVEN/3EIGHT/3NINE/2FIFTY",
    "0IDEOGRAPHIC TELEGRAPH SYMBOL FOR JANUARY/4FEBRUARY/4MARCH/4APRIL/4MAY/4JUNE/4JULY/4AUGUST",
    "4SEPTEMBER/4OCTOBER/4NOVEMBER/4DECEMBER/0SQUARE HG/1ERG/1EV/0LIMITED LIABILITY SIGN",
    "0CIRCLED KATAKANA A/2I/2U/2E/2O/2KA/2KI/2KU/2KE/2KO/2SA/2SI/2SU/2SE/2SO/2TA/2TI/2TU/2TE/2TO",
    "2NA/2NI/2NU/2NE/2NO/2HA/2HI/2HU/2HE/2HO/2MA/2MI/2MU/2ME/2MO/2YA/2YU/2YO/2RA/2RI/2RU/2RE/2RO",
    "2WA/2WI/2WE/2WO/0SQUARE ERA NAME REIWA/1APAATO/1ARUHUA/1ANPEA/1AARU/1ININGU/1INTI/1UON",
    "1ESUKUUDO/1EEKAA/1ONSU/1OOMU/1KAIRI/1KARATTO/1KARORII/1GARON/1GANMA/1GIGA/1GINII/1KYURII",
    "1GIRUDAA/1KIRO/1KIROGURAMU/1KIROMEETORU/1KIROWATTO/1GURAMU/1GURAMUTON/1KURUZEIRO/1KUROONE",
    "1KEESU/1KORUNA/1KOOPO/1SAIKURU/1SANTIIMU/1SIRINGU/1SENTI/1SENTO/1DAASU/1DESI/1DORU/1TON",
    "1NANO/1NOTTO/1HAITU/1PAASENTO/1PAATU/1BAARERU/1PIASUTORU/1PIKURU/1PIKO/1BIRU/1HUARADDO",
    "1HUIITO/1BUSSYERU/1HURAN/1HEKUTAARU/1PESO/1PENIHI/1HERUTU/1PENSU/1PEEZI/1BEETA/1POINTO",
    "1BORUTO/1HON/1PONDO/1HOORU/1HOON/1MAIKURO/1MAIRU/1MAHHA/1MARUKU/1MANSYON/1MIKURON/1MIRI",
    "1MIRIBAARU/1MEGA/1MEGATON/1MEETORU/1YAADO/1YAARU/1YUAN/1RITTORU/1RIRA/1RUPII/1RUUBURU/1REMU",
    "1RENTOGEN/1WATTO/0IDEOGRAPHIC TELEGRAPH SYMBOL FOR HOUR ZERO/5ONE/5TWO/5THREE/5FOUR/5FIVE",
    "5SIX/5SEVEN/5EIGHT/5NINE/5TEN/5ELEVEN/5TWELVE/5THIRTEEN/5FOURTEEN/5FIFTEEN/5SIXTEEN",
    "5SEVENTEEN/5EIGHTEEN/5NINETEEN/5TWENTY/5TWENTY-ONE/5TWENTY-TWO/5TWENTY-THREE/5TWENTY-FOUR",
    "0SQUARE HPA/1DA/1AU/1BAR/1OV/1PC/1DM/2SQUARED/2CUBED/1IU/1ERA NAME HEISEI/3SYOUWA/3TAISYOU",
    "3MEIZI/1CORPORATION/1PA AMPS/1NA/1MU A/1MA/1KA/1KB/1MB/1GB/1CAL/1KCAL/1PF/1NF/1MU F/2G/1MG",
    "1KG/1HZ/1KHZ/1MHZ/1GHZ/1THZ/1MU L/1ML/1DL/1KL/1FM/1NM/1MU M/1MM/1CM/1KM/1MM SQUARED",
    "1CM SQUARED/1M SQUARED/1KM SQUARED/1MM CUBED/1CM CUBED/1M CUBED/1KM CUBED/1M OVER S",
    "4SQUARED/1PA/1KPA/1MPA/1GPA/1RAD/2OVER S/4SQUARED/1PS/1NS/1MU S/1MS/1PV/1NV/1MU V/1MV/1KV",
    "1MV MEGA/1PW/1NW/1MU W/1MW/1KW/1MW MEGA/1K OHM/1M OHM/1AM/1BQ/1CC/1CD/1C OVER KG/1CO/1DB",
    "1GY/1HA/1HP/1IN/1KK/1KM CAPITAL/1KT/1LM/1LN/1LOG/1LX/1MB SMALL/1MIL/1MOL/1PH/1PM/1PPM/1PR",
    "1SR/1SV/1WB/1V OVER M/1A OVER M/0IDEOGRAPHIC TELEGRAPH SYMBOL FOR DAY ONE/5TWO/5THREE/5FOUR",
    "5FIVE/5SIX/5SEVEN/5EIGHT/5NINE/5TEN/5ELEVEN/5TWELVE/5THIRTEEN/5FOURTEEN/5FIFTEEN/5SIXTEEN",
    "5SEVENTEEN/5EIGHTEEN/5NINETEEN/5TWENTY/5TWENTY-ONE/5TWENTY-TWO/5TWENTY-THREE/5TWENTY-FOUR",
    "5TWENTY-FIVE/5TWENTY-SIX/5TWENTY-SEVEN/5TWENTY-EIGHT/5TWENTY-NINE/5THIRTY/5THIRTY-ONE",
    "0SQUARE GAL"]⟩,
  ⟨0x4dc0, ["0HEXAGRAM FOR THE CREATIVE HEAVEN/3RECEPTIVE EARTH/2DIFFICULTY AT THE BEGINNING",
    "2YOUTHFUL FOLLY/2WAITING/2CONFLICT/2THE ARMY/2HOLDING TOGETHER/2SMALL TAMING/2TREADING",
    "2PEACE/2STANDSTILL/2FELLOWSHIP/2GREAT POSSESSION/2MODESTY/2ENTHUSIASM/2FOLLOWING",
    "2WORK ON THE DECAYED/2APPROACH/2CONTEMPLATION/2BITING THROUGH/2GRACE/2SPLITTING APART",
    "2RETURN/2INNOCENCE/2GREAT TAMING/2MOUTH CORNERS/2GREAT PREPONDERANCE/2THE ABYSMAL WATER",
    "3CLINGING FIRE/2INFLUENCE/2DURATION/2RETREAT/2GREAT POWER/2PROGRESS/2DARKENING OF THE LIGHT",
    "2THE FAMILY/2OPPOSITION/2OBSTRUCTION/2DELIVERANCE/2DECREASE/2INCREASE/2BREAKTHROUGH",
    "2COMING TO MEET/2GATHERING TOGETHER/2PUSHING UPWARD/2OPPRESSION/2THE WELL/2REVOLUTION",
    "2THE CAULDRON/3AROUSING THUNDER/3KEEPING STILL MOUNTAIN/2DEVELOPMENT/2THE MARRYING MAIDEN",
    "2ABUNDANCE/2THE WANDERER/3GENTLE WIND/3JOYOUS LAKE/2DISPERSION/2LIMITATION/2INNER TRUTH",
    "2SMALL PREPONDERANCE/2AFTER COMPLETION/2BEFORE COMPLETION"]⟩,
  ⟨0xa000, ["0YI SYLLABLE IT/2IX/2I/2IP/2IET/2IEX/2IE/2IEP/2AT/2AX/2A/2AP/2UOX/2UO/2UOP/2OT/2OX",
    "2O/2OP/2EX/2E/2WU/2BIT/2BIX/2BI/2BIP/2BIET/2BIEX/2BIE/2BIEP/2BAT/2BAX/2BA/2BAP/2BUOX/2BUO",
    "2BUOP/2BOT/2BOX/2BO/2BOP/2BEX/2BE/2BEP/2BUT/2BUX/2BU/2BUP/2BURX/2BUR/2BYT/2BYX/2BY/2BYP",
    "2BYRX/2BYR/2PIT/2PIX/2PI/2PIP/2PIEX/2PIE/2PIEP/2PAT/2PAX/2PA/2PAP/2PUOX/2PUO/2PUOP/2POT",
    "2POX/2PO/2POP/2PUT/2PUX/2PU/2PUP/2PURX/2PUR/2PYT/2PYX/2PY/2PYP/2PYRX/2PYR/2BBIT/2BBIX/2BBI",
    "2BBIP/2BBIET/2BBIEX/2BBIE/2BBIEP/2BBAT/2BBAX/2BBA/2BBAP/2BBUOX/2BBUO/2BBUOP/2BBOT/2BBOX",
    "2BBO/2BBOP/2BBEX/2BBE/2BBEP/2BBUT/2BBUX/2BBU/2BBUP/2BBURX/2BBUR/2BBYT/2BBYX/2BBY/2BBYP",
    "2NBIT/2NBIX/2NBI/2NBIP/2NBIEX/2NBIE/2NBIEP/2NBAT/2NBAX/2NBA/2NBAP/2NBOT/2NBOX/2NBO/2NBOP",
    "2NBUT/2NBUX/2NBU/2NBUP/2NBURX/2NBUR/2NBYT/2NBYX/2NBY/2NBYP/2NBYRX/2NBYR/2HMIT/2HMIX/2HMI",
    "2HMIP/2HMIEX/2HMIE/2HMIEP/2HMAT/2HMAX/2HMA/2HMAP/2HMUOX/2HMUO/2HMUOP/2HMOT/2HMOX/2HMO/2HMOP",
    "2HMUT/2HMUX/2HMU/2HMUP/2HMURX/2HMUR/2HMYX/2HMY/2HMYP/2HMYRX/2HMYR/2MIT/2MIX/2MI/2MIP/2MIEX",
    "2MIE/2MIEP/2MAT/2MAX/2MA/2MAP/2MUOT/2MUOX/2MUO/2MUOP/2MOT/2MOX/2MO/2MOP/2MEX/2ME/2MUT/2MUX",
    "2MU/2MUP/2MURX/2MUR/2MYT/2MYX/2MY/2MYP/2FIT/2FIX/2FI/2FIP/2FAT/2FAX/2FA/2FAP/2FOX/2FO/2FOP",
    "2FUT/2FUX/2FU/2FUP/2FURX/2FUR/2FYT/2FYX/2FY/2FYP/2VIT/2VIX/2VI/2VIP/2VIET/2VIEX/2VIE/2VIEP",
    "2VAT/2VAX/2VA/2VAP/2VOT/2VOX/2VO/2VOP/2VEX/2VEP/2VUT/2VUX/2VU/2VUP/2VURX/2VUR/2VYT/2VYX/2VY",
    "2VYP/2VYRX/2VYR/2DIT/2DIX/2DI/2DIP/2DIEX/2DIE/2DIEP/2DAT/2DAX/2DA/2DAP/2DUOX/2DUO/2DOT/2DOX",
    "2DO/2DOP/2DEX/2DE/2DEP/2DUT/2DUX/2DU/2DUP/2DURX/2DUR/2TIT/2TIX/2TI/2TIP/2TIEX/2TIE/2TIEP",
    "2TAT/2TAX/2TA/2TAP/2TUOT/2TUOX/2TUO/2TUOP/2TOT/2TOX/2TO/2TOP/2TEX/2TE/2TEP/2TUT/2TUX/2TU",
    "2TUP/2TURX/2TUR/2DDIT/2DDIX/2DDI/2DDIP/2DDIEX/2DDIE/2DDIEP/2DDAT/2DDAX/2DDA/2DDAP/2DDUOX",
    "2DDUO/2DDUOP/2DDOT/2DDOX/2DDO/2DDOP/2DDEX/2DDE/2DDEP/2DDUT/2DDUX/2DDU/2DDUP/2DDURX/2DDUR",
    "2NDIT/2NDIX/2NDI/2NDIP/2NDIEX/2NDIE/2NDAT/2NDAX/2NDA/2NDAP/2NDOT/2NDOX/2NDO/2NDOP/2NDEX",
    "2NDE/2NDEP/2NDUT/2NDUX/2NDU/2NDUP/2NDURX/2NDUR/2HNIT/2HNIX/2HNI/2HNIP/2HNIET/2HNIEX/2HNIE",
    "2HNIEP/2HNAT/2HNAX/2HNA/2HNAP/2HNUOX/2HNUO/2HNOT/2HNOX/2HNOP/2HNEX/2HNE/2HNEP/2HNUT/2NIT",
    "2NIX/2NI/2NIP/2NIEX/2NIE/2NIEP/2NAX/2NA/2NAP/2NUOX/2NUO/2NUOP/2NOT/2NOX/2NO/2NOP/2NEX/2NE",
    "2NEP/2NUT/2NUX/2NU/2NUP/2NURX/2NUR/2HLIT/2HLIX/2HLI/2HLIP/2HLIEX/2HLIE/2HLIEP/2HLAT/2HLAX",
    "2HLA/2HLAP/2HLUOX/2HLUO/2HLUOP/2HLOX/2HLO/2HLOP/2HLEX/2HLE/2HLEP/2HLUT/2HLUX/2HLU/2HLUP",
    "2HLURX/2HLUR/2HLYT/2HLYX/2HLY/2HLYP/2HLYRX/2HLYR/2LIT/2LIX/2LI/2LIP/2LIET/2LIEX/2LIE/2LIEP",
    "2LAT/2LAX/2LA/2LAP/2LUOT/2LUOX/2LUO/2LUOP/2LOT/2LOX/2LO/2LOP/2LEX/2LE/2LEP/2LUT/2LUX/2LU",
    "2LUP/2LURX/2LUR/2LYT/2LYX/2LY/2LYP/2LYRX/2LYR/2GIT/2GIX/2GI/2GIP/2GIET/2GIEX/2GIE/2GIEP",
    "2GAT/2GAX/2GA/2GAP/2GUOT/2GUOX/2GUO/2GUOP/2GOT/2GOX/2GO/2GOP/2GET/2GEX/2GE/2GEP/2GUT/2GUX",
    "2GU/2GUP/2GURX/2GUR/2KIT/2KIX/2KI/2KIP/2KIEX/2KIE/2KIEP/2KAT/2KAX/2KA/2KAP/2KUOX/2KUO/2KUOP",
    "2KOT/2KOX/2KO/2KOP/2KET/2KEX/2KE/2KEP/2KUT/2KUX/2KU/2KUP/2KURX/2KUR/2GGIT/2GGIX/2GGI/2GGIEX",
    "2GGIE/2GGIEP/2GGAT/2GGAX/2GGA/2GGAP/2GGUOT/2GGUOX/2GGUO/2GGUOP/2GGOT/2GGOX/2GGO/2GGOP/2GGET",
    "2GGEX/2GGE/2GGEP/2GGUT/2GGUX/2GGU/2GGUP/2GGURX/2GGUR/2MGIEX/2MGIE/2MGAT/2MGAX/2MGA/2MGAP",
    "2MGUOX/2MGUO/2MGUOP/2MGOT/2MGOX/2MGO/2MGOP/2MGEX/2MGE/2MGEP/2MGUT/2MGUX/2MGU/2MGUP/2MGURX",
    "2MGUR/2HXIT/2HXIX/2HXI/2HXIP/2HXIET/2HXIEX/2HXIE/2HXIEP/2HXAT/2HXAX/2HXA/2HXAP/2HXUOT",
    "2HXUOX/2HXUO/2HXUOP/2HXOT/2HXOX/2HXO/2HXOP/2HXEX/2HXE/2HXEP/2NGIEX/2NGIE/2NGIEP/2NGAT/2NGAX",
    "2NGA/2NGAP/2NGUOT/2NGUOX/2NGUO/2NGOT/2NGOX/2NGO/2NGOP/2NGEX/2NGE/2NGEP/2HIT/2HIEX/2HIE/2HAT",
    "2HAX/2HA/2HAP/2HUOT/2HUOX/2HUO/2HUOP/2HOT/2HOX/2HO/2HOP/2HEX/2HE/2HEP/2WAT/2WAX/2WA/2WAP",
    "2WUOX/2WUO/2WUOP/2WOX/2WO/2WOP/2WEX/2WE/2WEP/2ZIT/2ZIX/2ZI/2ZIP/2ZIEX/2ZIE/2ZIEP/2ZAT/2ZAX",
    "2ZA/2ZAP/2ZUOX/2ZUO/2ZUOP/2ZOT/2ZOX/2ZO/2ZOP/2ZEX/2ZE/2ZEP/2ZUT/2ZUX/2ZU/2ZUP/2ZURX/2ZUR",
    "2ZYT/2ZYX/2ZY/2ZYP/2ZYRX/2ZYR/2CIT/2CIX/2CI/2CIP/2CIET/2CIEX/2CIE/2CIEP/2CAT/2CAX/2CA/2CAP",
    "2CUOX/2CUO/2CUOP/2COT/2COX/2CO/2COP/2CEX/2CE/2CEP/2CUT/2CUX/2CU/2CUP/2CURX/2CUR/2CYT/2CYX",
    "2CY/2CYP/2CYRX/2CYR/2ZZIT/2ZZIX/2ZZI/2ZZIP/2ZZIET/2ZZIEX/2ZZIE/2ZZIEP/2ZZAT/2ZZAX/2ZZA",
    "2ZZAP/2ZZOX/2ZZO/2ZZOP/2ZZEX/2ZZE/2ZZEP/2ZZUX/2ZZU/2ZZUP/2ZZURX/2ZZUR/2ZZYT/2ZZYX/2ZZY",
    "2ZZYP/2ZZYRX/2ZZYR/2NZIT/2NZIX/2NZI/2NZIP/2NZIEX/2NZIE/2NZIEP/2NZAT/2NZAX/2NZA/2NZAP/2NZUOX",
    "2NZUO/2NZOX/2NZOP/2NZEX/2NZE/2NZUX/2NZU/2NZUP/2NZURX/2NZUR/2NZYT/2NZYX/2NZY/2NZYP/2NZYRX",
    "2NZYR/2SIT/2SIX/2SI/2SIP/2SIEX/2SIE/2SIEP/2SAT/2SAX/2SA/2SAP/2SUOX/2SUO/2SUOP/2SOT/2SOX/2SO",
    "2SOP/2SEX/2SE/2SEP/2SUT/2SUX/2SU/2SUP/2SURX/2SUR/2SYT/2SYX/2SY/2SYP/2SYRX/2SYR/2SSIT/2SSIX",
    "2SSI/2SSIP/2SSIEX/2SSIE/2SSIEP/2SSAT/2SSAX/2SSA/2SSAP/2SSOT/2SSOX/2SSO/2SSOP/2SSEX/2SSE",
    "2SSEP/2SSUT/2SSUX/2SSU/2SSUP/2SSYT/2SSYX/2SSY/2SSYP/2SSYRX/2SSYR/2ZHAT/2ZHAX/2ZHA/2ZHAP",
    "2ZHUOX/2ZHUO/2ZHUOP/2ZHOT/2ZHOX/2ZHO/2ZHOP/2ZHET/2ZHEX/2ZHE/2ZHEP/2ZHUT/2ZHUX/2ZHU/2ZHUP",
    "2ZHURX/2ZHUR/2ZHYT/2ZHYX/2ZHY/2ZHYP/2ZHYRX/2ZHYR/2CHAT/2CHAX/2CHA/2CHAP/2CHUOT/2CHUOX/2CHUO",
    "2CHUOP/2CHOT/2CHOX/2CHO/2CHOP/2CHET/2CHEX/2CHE/2CHEP/2CHUX/2CHU/2CHUP/2CHURX/2CHUR/2CHYT",
    "2CHYX/2CHY/2CHYP/2CHYRX/2CHYR/2RRAX/2RRA/2RRUOX/2RRUO/2RROT/2RROX/2RRO/2RROP/2RRET/2RREX",
    "2RRE/2RREP/2RRUT/2RRUX/2RRU/2RRUP/2RRURX/2RRUR/2RRYT/2RRYX/2RRY/2RRYP/2RRYRX/2RRYR/2NRAT",
    "2NRAX/2NRA/2NRAP/2NROX/2NRO/2NROP/2NRET/2NREX/2NRE/2NREP/2NRUT/2NRUX/2NRU/2NRUP/2NRURX",
    "2NRUR/2NRYT/2NRYX/2NRY/2NRYP/2NRYRX/2NRYR/2SHAT/2SHAX/2SHA/2SHAP/2SHUOX/2SHUO/2SHUOP/2SHOT",
    "2SHOX/2SHO/2SHOP/2SHET/2SHEX/2SHE/2SHEP/2SHUT/2SHUX/2SHU/2SHUP/2SHURX/2SHUR/2SHYT/2SHYX",
    "2SHY/2SHYP/2SHYRX/2SHYR/2RAT/2RAX/2RA/2RAP/2RUOX/2RUO/2RUOP/2ROT/2ROX/2RO/2ROP/2REX/2RE",
    "2REP/2RUT/2RUX/2RU/2RUP/2RURX/2RUR/2RYT/2RYX/2RY/2RYP/2RYRX/2RYR/2JIT/2JIX/2JI/2JIP/2JIET",
    "2JIEX/2JIE/2JIEP/2JUOT/2JUOX/2JUO/2JUOP/2JOT/2JOX/2JO/2JOP/2JUT/2JUX/2JU/2JUP/2JURX/2JUR",
    "2JYT/2JYX/2JY/2JYP/2JYRX/2JYR/2QIT/2QIX/2QI/2QIP/2QIET/2QIEX/2QIE/2QIEP/2QUOT/2QUOX/2QUO",
    "2QUOP/2QOT/2QOX/2QO/2QOP/2QUT/2QUX/2QU/2QUP/2QURX/2QUR/2QYT/2QYX/2QY/2QYP/2QYRX/2QYR/2JJIT",
    "2JJIX/2JJI/2JJIP/2JJIET/2JJIEX/2JJIE/2JJIEP/2JJUOX/2JJUO/2JJUOP/2JJOT/2JJOX/2JJO/2JJOP",
    "2JJUT/2JJUX/2JJU/2JJUP/2JJURX/2JJUR/2JJYT/2JJYX/2JJY/2JJYP/2NJIT/2NJIX/2NJI/2NJIP/2NJIET",
    "2NJIEX/2NJIE/2NJIEP/2NJUOX/2NJUO/2NJOT/2NJOX/2NJO/2NJOP/2NJUX/2NJU/2NJUP/2NJURX/2NJUR/2NJYT",
    "2NJYX/2NJY/2NJYP/2NJYRX/2NJYR/2NYIT/2NYIX/2NYI/2NYIP/2NYIET/2NYIEX/2NYIE/2NYIEP/2NYUOX",
    "2NYUO/2NYUOP/2NYOT/2NYOX/2NYO/2NYOP/2NYUT/2NYUX/2NYU/2NYUP/2XIT/2XIX/2XI/2XIP/2XIET/2XIEX",
    "2XIE/2XIEP/2XUOX/2XUO/2XOT/2XOX/2XO/2XOP/2XYT/2XYX/2XY/2XYP/2XYRX/2XYR/2YIT/2YIX/2YI/2YIP",
    "2YIET/2YIEX/2YIE/2YIEP/2YUOT/2YUOX/2YUO/2YUOP/2YOT/2YOX/2YO/2YOP/2YUT/2YUX/2YU/2YUP/2YURX",
    "2YUR/2YYT/2YYX/2YY/2YYP/2YYRX/2YYR"]⟩,
  ⟨0xa490, ["0YI RADICAL QOT/2LI/2KIT/2NYIP/2CYP/2SSI/2GGOP/2GEP/2MI/2HXIT/2LYR/2BBUT/2MOP/2YO",
    "2PUT/2HXUO/2TAT/2GA/2ZUP/2CYT/2DDUR/2BUR/2GGUO/2NYOP/2TU/2OP/2JJUT/2ZOT/2PYT/2HMO/2YIT/2VUR",
    "2SHY/2VEP/2ZA/2JO/2NZUP/2JJY/2GOT/2JJIE/2WO/2DU/2SHUR/2LIE/2CY/2CUOP/2CIP/2HXOP/2SHAT/2ZUR",
    "2SHOP/2CHE/2ZZIET/2NBIE/2KE"]⟩,
  ⟨0xa4d0, ["0LISU LETTER BA/2PA/2PHA/2DA/2TA/2THA/2GA/2KA/2KHA/2JA/2CA/2CHA/2DZA/2TSA/2TSHA",
    "2MA/2NA/2LA/2SA/2ZHA/2ZA/2NGA/2HA/2XA/2HHA/2FA/2WA/2SHA/2YA/2GHA/2A/2AE/2E/2EU/2I/2O/2U/2UE",
    "2UH/2OE/2TONE MYA TI/3NA PO/3MYA CYA/4BO/4NA/4JEU/1PUNCTUATION COMMA/2FULL STOP"]⟩]

/-- The scripts of India and its neighbours. -/
def southAsianNames : List NameRun := [
  ⟨0x900, ["0DEVANAGARI SIGN INVERTED CANDRABINDU/2CANDRABINDU/2ANUSVARA/2VISARGA",
    "1LETTER SHORT A/2A/2AA/2I/2II/2U/2UU/2VOCALIC R/3L/2CANDRA E/2SHORT E/2E/2AI/2CANDRA O",
    "2SHORT O/2O/2AU/2KA/2KHA/2GA/2GHA/2NGA/2CA/2CHA/2JA/2JHA/2NYA/2TTA/2TTHA/2DDA/2DDHA/2NNA",
    "2TA/2THA/2DA/2DHA/2NA/2NNNA/2PA/2PHA/2BA/2BHA/2MA/2YA/2RA/2RRA/2LA/2LLA/2LLLA/2VA/2SHA/2SSA",
    "2SA/2HA/1VOWEL SIGN OE/3OOE/1SIGN NUKTA/2AVAGRAHA/1VOWEL SIGN AA/3I/3II/3U/3UU/3VOCALIC R",
    "4RR/3CANDRA E/3SHORT E/3E/3AI/3CANDRA O/3SHORT O/3O/3AU/1SIGN VIRAMA",
    "1VOWEL SIGN PRISHTHAMATRA E/3AW/1OM/1STRESS SIGN UDATTA/3ANUDATTA/1GRAVE ACCENT",
    "1ACUTE ACCENT/1VOWEL SIGN CANDRA LONG E/3UE/3UUE/1LETTER QA/2KHHA/2GHHA/2ZA/2DDDHA/2RHA/2FA",
    "2YYA/2VOCALIC RR/3LL/1VOWEL SIGN VOCALIC L/4LL/1DANDA/1DOUBLE DANDA/1DIGIT ZERO/2ONE/2TWO",
    "2THREE/2FOUR/2FIVE/2SIX/2SEVEN/2EIGHT/2NINE/1ABBREVIATION SIGN/1SIGN HIGH SPACING DOT",
    "1LETTER CANDRA A/2OE/2OOE/2AW/2UE/2UUE/2MARWARI DDA/2ZHA/2HEAVY YA/2GGA/2JJA/2GLOTTAL STOP",
    "2DDDA/2BBA/0BENGALI ANJI/1SIGN CANDRABINDU/2ANUSVARA/2VISARGA"]⟩,
  ⟨0x985, ["0BENGALI LETTER A/2AA/2I/2II/2U/2UU/2VOCALIC R/3L"]⟩,
  ⟨0x98f, ["0BENGALI LETTER E/2AI"]⟩,
  ⟨0x993, ["0BENGALI LETTER O/2AU/2KA/2KHA/2GA/2GHA/2NGA/2CA/2CHA/2JA/2JHA/2NYA/2TTA/2TTHA/2DDA",
    "2DDHA/2NNA/2TA/2THA/2DA/2DHA/2NA"]⟩,
  ⟨0x9aa, ["0BENGALI LETTER PA/2PHA/2BA/2BHA/2MA/2YA/2RA"]⟩,
  ⟨0x9b2, ["0BENGALI LETTER LA"]⟩,
  ⟨0x9b6, ["0BENGALI LETTER SHA/2SSA/2SA/2HA"]⟩,
  ⟨0x9bc, ["0BENGALI SIGN NUKTA/2AVAGRAHA/1VOWEL SIGN AA/3I/3II/3U/3UU/3VOCALIC R/4RR"]⟩,
  ⟨0x9c7, ["0BENGALI VOWEL SIGN E/3AI"]⟩,
  ⟨0x9cb, ["0BENGALI VOWEL SIGN O/3AU/1SIGN VIRAMA/1LETTER KHANDA TA"]⟩,
  ⟨0x9d7, ["0BENGALI AU LENGTH MARK"]⟩,
  ⟨0x9dc, ["0BENGALI LETTER RRA/2RHA"]⟩,
  ⟨0x9df, ["0BENGALI LETTER YYA/2VOCALIC RR/3LL/1VOWEL SIGN VOCALIC L/4LL"]⟩,
  ⟨0x9e6, ["0BENGALI DIGIT ZERO/2ONE/2TWO/2THREE/2FOUR/2FIVE/2SIX/2SEVEN/2EIGHT/2NINE",
    "1LETTER RA WITH MIDDLE DIAGONAL/4LOWER DIAGONAL/1RUPEE MARK/2SIGN/1CURRENCY NUMERATOR ONE",
    "3TWO/3THREE/3FOUR/3ONE LESS THAN THE DENOMINATOR/2DENOMINATOR SIXTEEN/1ISSHAR/1GANDA MARK",
    "1LETTER VEDIC ANUSVARA/1ABBREVIATION SIGN/1SANDHI MARK"]⟩,
  ⟨0xa01, ["0GURMUKHI SIGN ADAK BINDI/2BINDI/2VISARGA"]⟩,
  ⟨0xa05, ["0GURMUKHI LETTER A/2AA/2I/2II/2U/2UU"]⟩,
  ⟨0xa0f, ["0GURMUKHI LETTER EE/2AI"]⟩,
  ⟨0xa13, ["0GURMUKHI LETTER OO/2AU/2KA/2KHA/2GA/2GHA/2NGA/2CA/2CHA/2JA/2JHA/2NYA/2TTA/2TTHA",
    "2DDA/2DDHA/2NNA/2TA/2THA/2DA/2DHA/2NA"]⟩,
  ⟨0xa2a, ["0GURMUKHI LETTER PA/2PHA/2BA/2BHA/2MA/2YA/2RA"]⟩,
  ⟨0xa32, ["0GURMUKHI LETTER LA/2LLA"]⟩,
  ⟨0xa35, ["0GURMUKHI LETTER VA/2SHA"]⟩,
  ⟨0xa38, ["0GURMUKHI LETTER SA/2HA"]⟩,
  ⟨0xa3c, ["0GURMUKHI SIGN NUKTA"]⟩,
  ⟨0xa3e, ["0GURMUKHI VOWEL SIGN AA/3I/3II/3U/3UU"]⟩,
  ⟨0xa47, ["0GURMUKHI VOWEL SIGN EE/3AI"]⟩,
  ⟨0xa4b, ["0GURMUKHI VOWEL SIGN OO/3AU/1SIGN VIRAMA"]⟩,
  ⟨0xa51, ["0GURMUKHI SIGN UDAAT"]⟩,
  ⟨0xa59, ["0GURMUKHI LETTER KHHA/2GHHA/2ZA/2RRA"]⟩,
  ⟨0xa5e, ["0GURMUKHI LETTER FA"]⟩,
  ⟨0xa66, ["0GURMUKHI DIGIT ZERO/2ONE/2TWO/2THREE/2FOUR/2FIVE/2SIX/2SEVEN/2EIGHT/2NINE/1TIPPI",
    "1ADDAK/1IRI/1URA/1EK ONKAR/1SIGN YAKASH/1ABBREVIATION SIGN"]⟩,
  ⟨0xa81, ["0GUJARATI SIGN CANDRABINDU/2ANUSVARA/2VISARGA"]⟩,
  ⟨0xa85, ["0GUJARATI LETTER A/2AA/2I/2II/2U/2UU/2VOCALIC R/3L/1VOWEL CANDRA E"]⟩,
  ⟨0xa8f, ["0GUJARATI LETTER E/2AI/1VOWEL CANDRA O"]⟩,
  ⟨0xa93, ["0GUJARATI LETTER O/2AU/2KA/2KHA/2GA/2GHA/2NGA/2CA/2CHA/2JA/2JHA/2NYA/2TTA/2TTHA",
    "2DDA/2DDHA/2NNA/2TA/2THA/2DA/2DHA/2NA"]⟩,
  ⟨0xaaa, ["0GUJARATI LETTER PA/2PHA/2BA/2BHA/2MA/2YA/2RA"]⟩,
  ⟨0xab2, ["0GUJARATI LETTER LA/2LLA"]⟩,
  ⟨0xab5, ["0GUJARATI LETTER VA/2SHA/2SSA/2SA/2HA"]⟩,
  ⟨0xabc, ["0GUJARATI SIGN NUKTA/2AVAGRAHA/1VOWEL SIGN AA/3I/3II/3U/3UU/3VOCALIC R/4RR",
    "3CANDRA E"]⟩,
  ⟨0xac7, ["0GUJARATI VOWEL SIGN E/3AI/3CANDRA O"]⟩,
  ⟨0xacb, ["0GUJARATI VOWEL SIGN O/3AU/1SIGN VIRAMA"]⟩,
  ⟨0xad0, ["0GUJARATI OM"]⟩,
  ⟨0xae0, ["0GUJARATI LETTER VOCALIC RR/3LL/1VOWEL SIGN VOCALIC L/4LL"]⟩,
  ⟨0xae6, ["0GUJARATI DIGIT ZERO/2ONE/2TWO/2THREE/2FOUR/2FIVE/2SIX/2SEVEN/2EIGHT/2NINE",
    "1ABBREVIATION SIGN/1RUPEE SIGN"]⟩,
  ⟨0xaf9, ["0GUJARATI LETTER ZHA/1SIGN SUKUN/2SHADDA/2MADDAH/2THREE-DOT NUKTA ABOVE",
    "2CIRCLE NUKTA ABOVE/2TWO-CIRCLE NUKTA ABOVE"]⟩,
  ⟨0xb01, ["0ORIYA SIGN CANDRABINDU/2ANUSVARA/2VISARGA"]⟩,
  ⟨0xb05, ["0ORIYA LETTER A/2AA/2I/2II/2U/2UU/2VOCALIC R/3L"]⟩,
  ⟨0xb0f, ["0ORIYA LETTER E/2AI"]⟩,
  ⟨0xb13, ["0ORIYA LETTER O/2AU/2KA/2KHA/2GA/2GHA/2NGA/2CA/2CHA/2JA/2JHA/2NYA/2TTA/2TTHA/2DDA",
    "2DDHA/2NNA/2TA/2THA/2DA/2DHA/2NA"]⟩,
  ⟨0xb2a, ["0ORIYA LETTER PA/2PHA/2BA/2BHA/2MA/2YA/2RA"]⟩,
  ⟨0xb32, ["0ORIYA LETTER LA/2LLA"]⟩,
  ⟨0xb35, ["0ORIYA LETTER VA/2SHA/2SSA/2SA/2HA"]⟩,
  ⟨0xb3c, ["0ORIYA SIGN NUKTA/2AVAGRAHA/1VOWEL SIGN AA/3I/3II/3U/3UU/3VOCALIC R/4RR"]⟩,
  ⟨0xb47, ["0ORIYA VOWEL SIGN E/3AI"]⟩,
  ⟨0xb4b, ["0ORIYA VOWEL SIGN O/3AU/1SIGN VIRAMA"]⟩,
  ⟨0xb55, ["0ORIYA SIGN OVERLINE/1AI LENGTH MARK/1AU LENGTH MARK"]⟩,
  ⟨0xb5c, ["0ORIYA LETTER RRA/2RHA"]⟩,
  ⟨0xb5f, ["0ORIYA LETTER YYA/2VOCALIC RR/3LL/1VOWEL SIGN VOCALIC L/4LL"]⟩,
  ⟨0xb66, ["0ORIYA DIGIT ZERO/2ONE/2TWO/2THREE/2FOUR/2FIVE/2SIX/2SEVEN/2EIGHT/2NINE/1ISSHAR",
    "1LETTER WA/1FRACTION ONE QUARTER/3HALF/2THREE QUARTERS/2ONE SIXTEENTH/3EIGHTH",
    "2THREE SIXTEENTHS"]⟩,
  ⟨0xb82, ["0TAMIL SIGN ANUSVARA/2VISARGA"]⟩,
  ⟨0xb85, ["0TAMIL LETTER A/2AA/2I/2II/2U/2UU"]⟩,
  ⟨0xb8e, ["0TAMIL LETTER E/2EE/2AI"]⟩,
  ⟨0xb92, ["0TAMIL LETTER O/2OO/2AU/2KA"]⟩,
  ⟨0xb99, ["0TAMIL LETTER NGA/2CA"]⟩,
  ⟨0xb9c, ["0TAMIL LETTER JA"]⟩,
  ⟨0xb9e, ["0TAMIL LETTER NYA/2TTA"]⟩,
  ⟨0xba3, ["0TAMIL LETTER NNA/2TA"]⟩,
  ⟨0xba8, ["0TAMIL LETTER NA/2NNNA/2PA"]⟩,
  ⟨0xbae, ["0TAMIL LETTER MA/2YA/2RA/2RRA/2LA/2LLA/2LLLA/2VA/2SHA/2SSA/2SA/2HA"]⟩,
  ⟨0xbbe, ["0TAMIL VOWEL SIGN AA/3I/3II/3U/3UU"]⟩,
  ⟨0xbc6, ["0TAMIL VOWEL SIGN E/3EE/3AI"]⟩,
  ⟨0xbca, ["0TAMIL VOWEL SIGN O/3OO/3AU/1SIGN VIRAMA"]⟩,
  ⟨0xbd0, ["0TAMIL OM"]⟩,
  ⟨0xbd7, ["0TAMIL AU LENGTH MARK"]⟩,
  ⟨0xbe6, ["0TAMIL DIGIT ZERO/2ONE/2TWO/2THREE/2FOUR/2FIVE/2SIX/2SEVEN/2EIGHT/2NINE/1NUMBER TEN",
    "2ONE HUNDRED/3THOUSAND/1DAY SIGN/1MONTH SIGN/1YEAR SIGN/1DEBIT SIGN/1CREDIT SIGN",
    "1AS ABOVE SIGN/1RUPEE SIGN/1NUMBER SIGN"]⟩,
  ⟨0xc00, ["0TELUGU SIGN COMBINING CANDRABINDU ABOVE/2CANDRABINDU/2ANUSVARA/2VISARGA",
    "2COMBINING ANUSVARA ABOVE/1LETTER A/2AA/2I/2II/2U/2UU/2VOCALIC R/3L"]⟩,
  ⟨0xc0e, ["0TELUGU LETTER E/2EE/2AI"]⟩,
  ⟨0xc12, ["0TELUGU LETTER O/2OO/2AU/2KA/2KHA/2GA/2GHA/2NGA/2CA/2CHA/2JA/2JHA/2NYA/2TTA/2TTHA",
    "2DDA/2DDHA/2NNA/2TA/2THA/2DA/2DHA/2NA"]⟩,
  ⟨0xc2a, ["0TELUGU LETTER PA/2PHA/2BA/2BHA/2MA/2YA/2RA/2RRA/2LA/2LLA/2LLLA/2VA/2SHA/2SSA/2SA",
    "2HA"]⟩,
  ⟨0xc3c, ["0TELUGU SIGN NUKTA/2AVAGRAHA/1VOWEL SIGN AA/3I/3II/3U/3UU/3VOCALIC R/4RR"]⟩,
  ⟨0xc46, ["0TELUGU VOWEL SIGN E/3EE/3AI"]⟩,
  ⟨0xc4a, ["0TELUGU VOWEL SIGN O/3OO/3AU/1SIGN VIRAMA"]⟩,
  ⟨0xc55, ["0TELUGU LENGTH MARK/1AI LENGTH MARK"]⟩,
  ⟨0xc58, ["0TELUGU LETTER TSA/2DZA/2RRRA"]⟩,
  ⟨0xc5d, ["0TELUGU LETTER NAKAARA POLLU"]⟩,
  ⟨0xc60, ["0TELUGU LETTER VOCALIC RR/3LL/1VOWEL SIGN VOCALIC L/4LL"]⟩,
  ⟨0xc66, ["0TELUGU DIGIT ZERO/2ONE/2TWO/2THREE/2FOUR/2FIVE/2SIX/2SEVEN/2EIGHT/2NINE"]⟩,
  ⟨0xc77, ["0TELUGU SIGN SIDDHAM/1FRACTION DIGIT ZERO FOR ODD POWERS OF FOUR",
    "3ONE FOR ODD POWERS OF FOUR/3TWO FOR ODD POWERS OF FOUR/3THREE FOR ODD POWERS OF FOUR",
    "3ONE FOR EVEN POWERS OF FOUR/3TWO FOR EVEN POWERS OF FOUR/3THREE FOR EVEN POWERS OF FOUR",
    "1SIGN TUUMU/0KANNADA SIGN SPACING CANDRABINDU/2CANDRABINDU/2ANUSVARA/2VISARGA/2SIDDHAM",
    "1LETTER A/2AA/2I/2II/2U/2UU/2VOCALIC R/3L"]⟩,
  ⟨0xc8e, ["0KANNADA LETTER E/2EE/2AI"]⟩,
  ⟨0xc92, ["0KANNADA LETTER O/2OO/2AU/2KA/2KHA/2GA/2GHA/2NGA/2CA/2CHA/2JA/2JHA/2NYA/2TTA/2TTHA",
    "2DDA/2DDHA/2NNA/2TA/2THA/2DA/2DHA/2NA"]⟩,
  ⟨0xcaa, ["0KANNADA LETTER PA/2PHA/2BA/2BHA/2MA/2YA/2RA/2RRA/2LA/2LLA"]⟩,
  ⟨0xcb5, ["0KANNADA LETTER VA/2SHA/2SSA/2SA/2HA"]⟩,
  ⟨0xcbc, ["0KANNADA SIGN NUKTA/2AVAGRAHA/1VOWEL SIGN AA/3I/3II/3U/3UU/3VOCALIC R/4RR"]⟩,
  ⟨0xcc6, ["0KANNADA VOWEL SIGN E/3EE/3AI"]⟩,
  ⟨0xcca, ["0KANNADA VOWEL SIGN O/3OO/3AU/1SIGN VIRAMA"]⟩,
  ⟨0xcd5, ["0KANNADA LENGTH MARK/1AI LENGTH MARK"]⟩,
  ⟨0xcdd, ["0KANNADA LETTER NAKAARA POLLU/2FA"]⟩,
  ⟨0xce0, ["0KANNADA LETTER VOCALIC RR/3LL/1VOWEL SIGN VOCALIC L/4LL"]⟩,
  ⟨0xce6, ["0KANNADA DIGIT ZERO/2ONE/2TWO/2THREE/2FOUR/2FIVE/2SIX/2SEVEN/2EIGHT/2NINE"]⟩,
  ⟨0xcf1, ["0KANNADA SIGN JIHVAMULIYA/2UPADHMANIYA"]⟩,
  ⟨0xd00, ["0MALAYALAM SIGN COMBINING ANUSVARA ABOVE/2CANDRABINDU/2ANUSVARA/2VISARGA",
    "1LETTER VEDIC ANUSVARA/2A/2AA/2I/2II/2U/2UU/2VOCALIC R/3L"]⟩,
  ⟨0xd0e, ["0MALAYALAM LETTER E/2EE/2AI"]⟩,
  ⟨0xd12, ["0MALAYALAM LETTER O/2OO/2AU/2KA/2KHA/2GA/2GHA/2NGA/2CA/2CHA/2JA/2JHA/2NYA/2TTA",
    "2TTHA/2DDA/2DDHA/2NNA/2TA/2THA/2DA/2DHA/2NA/2NNNA/2PA/2PHA/2BA/2BHA/2MA/2YA/2RA/2RRA/2LA",
    "2LLA/2LLLA/2VA/2SHA/2SSA/2SA/2HA/2TTTA/1SIGN VERTICAL BAR VIRAMA/2CIRCULAR VIRAMA/2AVAGRAHA",
    "1VOWEL SIGN AA/3I/3II/3U/3UU/3VOCALIC R/4RR"]⟩,
  ⟨0xd46, ["0MALAYALAM VOWEL SIGN E/3EE/3AI"]⟩,
  ⟨0xd4a, ["0MALAYALAM VOWEL SIGN O/3OO/3AU/1SIGN VIRAMA/1LETTER DOT REPH/1SIGN PARA"]⟩,
  ⟨0xd54, ["0MALAYALAM LETTER CHILLU M/3Y/3LLL/1AU LENGTH MARK",
    "1FRACTION ONE ONE-HUNDRED-AND-SIXTIETH/3FORTIETH/2THREE EIGHTIETHS/2ONE TWENTIETH/3TENTH",
    "2THREE TWENTIETHS/2ONE FIFTH/1LETTER ARCHAIC II/2VOCALIC RR/3LL/1VOWEL SIGN VOCALIC L/4LL"]⟩,
  ⟨0xd66, ["0MALAYALAM DIGIT ZERO/2ONE/2TWO/2THREE/2FOUR/2FIVE/2SIX/2SEVEN/2EIGHT/2NINE",
    "1NUMBER TEN/2ONE HUNDRED/3THOUSAND/1FRACTION ONE QUARTER/3HALF/2THREE QUARTERS",
    "2ONE SIXTEENTH/3EIGHTH/2THREE SIXTEENTHS/1DATE MARK/1LETTER CHILLU NN/3N/3RR/3L/3LL/3K"]⟩,
  ⟨0xd81, ["0SINHALA SIGN CANDRABINDU/2ANUSVARAYA/2VISARGAYA"]⟩,
  ⟨0xd85, ["0SINHALA LETTER AYANNA/2AAYANNA/2AEYANNA/2AEEYANNA/2IYANNA/2IIYANNA/2UYANNA",
    "2UUYANNA/2IRUYANNA/2IRUUYANNA/2ILUYANNA/2ILUUYANNA/2EYANNA/2EEYANNA/2AIYANNA/2OYANNA",
    "2OOYANNA/2AUYANNA"]⟩,
  ⟨0xd9a, ["0SINHALA LETTER ALPAPRAANA KAYANNA/2MAHAAPRAANA KAYANNA/2ALPAPRAANA GAYANNA",
    "2MAHAAPRAANA GAYANNA/2KANTAJA NAASIKYAYA/2SANYAKA GAYANNA/2ALPAPRAANA CAYANNA",
    "2MAHAAPRAANA CAYANNA/2ALPAPRAANA JAYANNA/2MAHAAPRAANA JAYANNA/2TAALUJA NAASIKYAYA",
    "3SANYOOGA NAAKSIKYAYA/2SANYAKA JAYANNA/2ALPAPRAANA TTAYANNA/2MAHAAPRAANA TTAYANNA",
    "2ALPAPRAANA DDAYANNA/2MAHAAPRAANA DDAYANNA/2MUURDHAJA NAYANNA/2SANYAKA DDAYANNA",
    "2ALPAPRAANA TAYANNA/2MAHAAPRAANA TAYANNA/2ALPAPRAANA DAYANNA/2MAHAAPRAANA DAYANNA",
    "2DANTAJA NAYANNA"]⟩,
  ⟨0xdb3, ["0SINHALA LETTER SANYAKA DAYANNA/2ALPAPRAANA PAYANNA/2MAHAAPRAANA PAYANNA",
    "2ALPAPRAANA BAYANNA/2MAHAAPRAANA BAYANNA/2MAYANNA/2AMBA BAYANNA/2YAYANNA/2RAYANNA"]⟩,
  ⟨0xdbd, ["0SINHALA LETTER DANTAJA LAYANNA"]⟩,
  ⟨0xdc0, ["0SINHALA LETTER VAYANNA/2TAALUJA SAYANNA/2MUURDHAJA SAYANNA/2DANTAJA SAYANNA",
    "2HAYANNA/2MUURDHAJA LAYANNA/2FAYANNA"]⟩,
  ⟨0xdca, ["0SINHALA SIGN AL-LAKUNA"]⟩,
  ⟨0xdcf, ["0SINHALA VOWEL SIGN AELA-PILLA/3KETTI AEDA-PILLA/3DIGA AEDA-PILLA/3KETTI IS-PILLA",
    "3DIGA IS-PILLA/3KETTI PAA-PILLA"]⟩,
  ⟨0xdd6, ["0SINHALA VOWEL SIGN DIGA PAA-PILLA"]⟩,
  ⟨0xdd8, ["0SINHALA VOWEL SIGN GAETTA-PILLA/3KOMBUVA/3DIGA KOMBUVA/3KOMBU DEKA",
    "3KOMBUVA HAA AELA-PILLA/5DIGA AELA-PILLA/5GAYANUKITTA/3GAYANUKITTA"]⟩,
  ⟨0xde6, ["0SINHALA LITH DIGIT ZERO/3ONE/3TWO/3THREE/3FOUR/3FIVE/3SIX/3SEVEN/3EIGHT/3NINE"]⟩,
  ⟨0xdf2, ["0SINHALA VOWEL SIGN DIGA GAETTA-PILLA/4GAYANUKITTA/1PUNCTUATION KUNDDALIYA"]⟩,
  ⟨0xe01, ["0THAI CHARACTER KO KAI/2KHO KHAI/3KHUAT/3KHWAI/3KHON/3RAKHANG/2NGO NGU/2CHO CHAN",
    "3CHING/3CHANG/2SO SO/2CHO CHOE/2YO YING/2DO CHADA/2TO PATAK/2THO THAN/3NANGMONTHO/3PHUTHAO",
    "2NO NEN/2DO DEK/2TO TAO/2THO THUNG/3THAHAN/3THONG/2NO NU/2BO BAIMAI/2PO PLA/2PHO PHUNG",
    "2FO FA/2PHO PHAN/2FO FAN/2PHO SAMPHAO/2MO MA/2YO YAK/2RO RUA/2RU/2LO LING/2LU/2WO WAEN",
    "2SO SALA/3RUSI/3SUA/2HO HIP/2LO CHULA/2O ANG/2HO NOKHUK/2PAIYANNOI/2SARA A/2MAI HAN-AKAT",
    "2SARA AA/3AM/3I/3II/3UE/3UEE/3U/3UU/2PHINTHU"]⟩,
  ⟨0xe3f, ["0THAI CURRENCY SYMBOL BAHT/1CHARACTER SARA E/3AE/3O/3AI MAIMUAN/4MAIMALAI",
    "2LAKKHANGYAO/2MAIYAMOK/2MAITAIKHU/2MAI EK/3THO/3TRI/3CHATTAWA/2THANTHAKHAT/2NIKHAHIT",
    "2YAMAKKAN/2FONGMAN/1DIGIT ZERO/2ONE/2TWO/2THREE/2FOUR/2FIVE/2SIX/2SEVEN/2EIGHT/2NINE",
    "1CHARACTER ANGKHANKHU/2KHOMUT"]⟩,
  ⟨0xe81, ["0LAO LETTER KO/2KHO SUNG"]⟩,
  ⟨0xe84, ["0LAO LETTER KHO TAM"]⟩,
  ⟨0xe86, ["0LAO LETTER PALI GHA/2NGO/2CO/2PALI CHA/2SO TAM"]⟩,
  ⟨0xe8c, ["0LAO LETTER PALI JHA/2NYO/2PALI NYA/3TTA/3TTHA/3DDA/3DDHA/3NNA/2DO/2TO/2THO SUNG",
    "3TAM/2PALI DHA/2NO/2BO/2PO/2PHO SUNG/2FO TAM/2PHO TAM/2FO SUNG/2PALI BHA/2MO/2YO/2LO LING"]⟩,
  ⟨0xea5, ["0LAO LETTER LO LOOT"]⟩,
  ⟨0xea7, ["0LAO LETTER WO/2SANSKRIT SHA/3SSA/2SO SUNG/2HO SUNG/2PALI LLA/2O/2HO TAM/1ELLIPSIS",
    "1VOWEL SIGN A/3MAI KAN/3AA/3AM/3I/3II/3Y/3YY/3U/3UU/1SIGN PALI VIRAMA/1VOWEL SIGN MAI KON",
    "1SEMIVOWEL SIGN LO/3NYO"]⟩,
  ⟨0xec0, ["0LAO VOWEL SIGN E/3EI/3O/3AY/3AI"]⟩,
  ⟨0xec6, ["0LAO KO LA"]⟩,
  ⟨0xec8, ["0LAO TONE MAI EK/3THO/3TI/3CATAWA/1CANCELLATION MARK/1NIGGAHITA"]⟩,
  ⟨0xed0, ["0LAO DIGIT ZERO/2ONE/2TWO/2THREE/2FOUR/2FIVE/2SIX/2SEVEN/2EIGHT/2NINE"]⟩,
  ⟨0xedc, ["0LAO HO NO/2MO/1LETTER KHMU GO/3NYO"]⟩,
  ⟨0xf00, ["0TIBETAN SYLLABLE OM/1MARK GTER YIG MGO TRUNCATED A/5-UM RNAM BCAD MA",
    "6GTER TSHEG MA/2INITIAL YIG MGO MDUN MA/2CLOSING YIG MGO SGAB MA",
    "2CARET YIG MGO PHUR SHAD MA/2YIG MGO TSHEG SHAD MA/2SBRUL SHAD/2BSKUR YIG MGO",
    "2BKA- SHOG YIG MGO/2INTERSYLLABIC TSHEG/2DELIMITER TSHEG BSTAR/2SHAD/2NYIS SHAD/2TSHEG SHAD",
    "2NYIS TSHEG SHAD/2RIN CHEN SPUNGS SHAD/2RGYA GRAM SHAD/2CARET -DZUD RTAGS ME LONG CAN",
    "2GTER TSHEG/1LOGOTYPE SIGN CHAD RTAGS/3LHAG RTAGS/1ASTROLOGICAL SIGN SGRA GCAN -CHAR RTAGS",
    "3-KHYUD PA/3SDONG TSHUGS/1SIGN RDEL DKAR GCIG/4GNYIS/4GSUM/3NAG GCIG/4GNYIS/3DKAR RDEL NAG",
    "1DIGIT ZERO/2ONE/2TWO/2THREE/2FOUR/2FIVE/2SIX/2SEVEN/2EIGHT/2NINE/2HALF ONE/3TWO/3THREE",
    "3FOUR/3FIVE/3SIX/3SEVEN/3EIGHT/3NINE/3ZERO/1MARK BSDUS RTAGS/2NGAS BZUNG NYI ZLA",
    "2CARET -DZUD RTAGS BZHI MIG CAN/2NGAS BZUNG SGOR RTAGS/2CHE MGO/2TSA -PHRU/2GUG RTAGS GYON",
    "4GYAS/2ANG KHANG GYON/4GYAS/1SIGN YAR TSHES/2MAR TSHES/1LETTER KA/2KHA/2GA/2GHA/2NGA/2CA",
    "2CHA/2JA"]⟩,
  ⟨0xf49, ["0TIBETAN LETTER NYA/2TTA/2TTHA/2DDA/2DDHA/2NNA/2TA/2THA/2DA/2DHA/2NA/2PA/2PHA/2BA",
    "2BHA/2MA/2TSA/2TSHA/2DZA/2DZHA/2WA/2ZHA/2ZA/2-A/2YA/2RA/2LA/2SHA/2SSA/2SA/2HA/2A/2KSSA",
    "2FIXED-FORM RA/2KKA/2RRA"]⟩,
  ⟨0xf71, ["0TIBETAN VOWEL SIGN AA/3I/3II/3U/3UU/3VOCALIC R/4RR/4L/4LL/3E/3EE/3O/3OO",
    "1SIGN RJES SU NGA RO/2RNAM BCAD/1VOWEL SIGN REVERSED I/4II/1SIGN NYI ZLA NAA DA/2SNA LDAN",
    "1MARK HALANTA/2PALUTA/1SIGN LCI RTAGS/2YANG RTAGS/2LCE TSA CAN/2MCHU CAN/2GRU CAN RGYINGS",
    "3MED RGYINGS/2INVERTED MCHU CAN/1SUBJOINED SIGN LCE TSA CAN/3MCHU CAN/3INVERTED MCHU CAN",
    "2LETTER KA/3KHA/3GA/3GHA/3NGA/3CA/3CHA/3JA"]⟩,
  ⟨0xf99, ["0TIBETAN SUBJOINED LETTER NYA/3TTA/3TTHA/3DDA/3DDHA/3NNA/3TA/3THA/3DA/3DHA/3NA/3PA",
    "3PHA/3BA/3BHA/3MA/3TSA/3TSHA/3DZA/3DZHA/3WA/3ZHA/3ZA/3-A/3YA/3RA/3LA/3SHA/3SSA/3SA/3HA/3A",
    "3KSSA/3FIXED-FORM WA/4YA/4RA"]⟩,
  ⟨0xfbe, ["0TIBETAN KU RU KHA/4BZHI MIG CAN/1CANTILLATION SIGN HEAVY BEAT/3LIGHT BEAT",
    "3CANG TE-U/3SBUB -CHAL/1SYMBOL DRIL BU/2RDO RJE/2PADMA GDAN/2RDO RJE RGYA GRAM/2PHUR PA",
    "2NOR BU/4NYIS -KHYIL/4GSUM -KHYIL/4BZHI -KHYIL"]⟩,
  ⟨0xfce, ["0TIBETAN SIGN RDEL NAG RDEL DKAR/4GSUM/1MARK BSKA- SHOG GI MGO RGYAN",
    "2MNYAM YIG GI MGO RGYAN/2NYIS TSHEG/2INITIAL BRDA RNYING YIG MGO MDUN MA",
    "2CLOSING BRDA RNYING YIG MGO SGAB MA/0RIGHT-FACING SVASTI SIGN/0LEFT-FACING SVASTI SIGN",
    "0RIGHT-FACING SVASTI SIGN WITH DOTS/0LEFT-FACING SVASTI SIGN WITH DOTS",
    "0TIBETAN MARK LEADING MCHAN RTAGS/2TRAILING MCHAN RTAGS"]⟩]

end Telematics.Text
