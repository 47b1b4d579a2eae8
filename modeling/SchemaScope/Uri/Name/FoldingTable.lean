import SchemaScope.Text.CharRanges
import SchemaScope.Text.CodeRun

/-!
What a character of a name stands for, where that is neither the character
itself nor its small letter: characters that are printed in another form
(circled, squared, raised, of another width or in another face), ligatures,
forms that a letter takes in a word, and characters that are not seen.
-/

namespace SchemaScope.Uri.Name

open Text

/-- The code points that stand for nothing. -/
def silentRanges : CharRanges :=
    [(173, 173), (847, 847), (4447, 4448), (6068, 6069), (6155, 6159),
     (8203, 8203), (8288, 8292), (8298, 8303), (12644, 12644), (65024, 65039),
     (65279, 65279), (65440, 65440), (113824, 113827), (119155, 119162),
     (917760, 917999)]

/-- Code points that stand each for another one, in runs of equal distance. -/
def foldingRuns : List CodeRun :=
    [⟨5024, 5109, 1, 0⟩, ⟨5112, 5117, 1, -8⟩, ⟨7473, 7481, 2, -7372⟩,
     ⟨7476, 7482, 2, -7372⟩, ⟨7598, 7601, 1, -6972⟩, ⟨8308, 8313, 1, -8256⟩,
     ⟨8320, 8329, 1, -8272⟩, ⟨8342, 8345, 1, -8235⟩, ⟨8501, 8504, 1, -7013⟩,
     ⟨9312, 9320, 1, -9263⟩, ⟨9398, 9423, 1, -9301⟩, ⟨9424, 9449, 1, -9327⟩,
     ⟨12602, 12607, 1, -8074⟩, ⟨12613, 12622, 1, -8252⟩,
     ⟨12623, 12643, 1, -8174⟩, ⟨12664, 12668, 1, -8269⟩,
     ⟨12905, 12909, 1, -8539⟩, ⟨13028, 13033, 1, -538⟩, ⟨13038, 13042, 1, -528⟩,
     ⟨13045, 13050, 1, -525⟩, ⟨13051, 13054, 1, -524⟩,
     ⟨43888, 43967, 1, -38864⟩, ⟨65089, 65092, 1, -52789⟩,
     ⟨65284, 65304, 2, -65248⟩, ⟨65287, 65293, 2, -65248⟩,
     ⟨65297, 65309, 2, -65248⟩, ⟨65313, 65338, 1, -65216⟩,
     ⟨65343, 65371, 1, -65248⟩, ⟨65413, 65418, 1, -52923⟩,
     ⟨65423, 65427, 1, -52913⟩, ⟨65430, 65435, 1, -52910⟩,
     ⟨65450, 65455, 1, -60922⟩, ⟨65461, 65470, 1, -61100⟩,
     ⟨65474, 65479, 1, -61025⟩, ⟨65482, 65487, 1, -61027⟩,
     ⟨65490, 65495, 1, -61029⟩, ⟨65513, 65516, 1, -56921⟩,
     ⟨117974, 117999, 1, -117877⟩, ⟨118000, 118009, 1, -117952⟩,
     ⟨119808, 119833, 1, -119711⟩, ⟨119834, 119859, 1, -119737⟩,
     ⟨119860, 119885, 1, -119763⟩, ⟨119886, 119910, 2, -119789⟩,
     ⟨119895, 119911, 2, -119789⟩, ⟨119912, 119937, 1, -119815⟩,
     ⟨119938, 119963, 1, -119841⟩, ⟨119977, 119980, 1, -119867⟩,
     ⟨119982, 119989, 1, -119867⟩, ⟨119990, 119993, 1, -119893⟩,
     ⟨119995, 120015, 2, -119893⟩, ⟨120006, 120014, 2, -119893⟩,
     ⟨120016, 120041, 1, -119919⟩, ⟨120042, 120067, 1, -119945⟩,
     ⟨120071, 120074, 1, -119971⟩, ⟨120077, 120084, 1, -119971⟩,
     ⟨120086, 120092, 1, -119971⟩, ⟨120094, 120119, 1, -119997⟩,
     ⟨120123, 120126, 1, -120023⟩, ⟨120128, 120132, 1, -120023⟩,
     ⟨120138, 120144, 1, -120023⟩, ⟨120146, 120171, 1, -120049⟩,
     ⟨120172, 120197, 1, -120075⟩, ⟨120198, 120223, 1, -120101⟩,
     ⟨120224, 120249, 1, -120127⟩, ⟨120250, 120275, 1, -120153⟩,
     ⟨120276, 120301, 1, -120179⟩, ⟨120302, 120327, 1, -120205⟩,
     ⟨120328, 120353, 1, -120231⟩, ⟨120354, 120379, 1, -120257⟩,
     ⟨120380, 120405, 1, -120283⟩, ⟨120406, 120431, 1, -120309⟩,
     ⟨120432, 120457, 1, -120335⟩, ⟨120458, 120483, 1, -120361⟩,
     ⟨120488, 120504, 1, -119543⟩, ⟨120506, 120512, 1, -119543⟩,
     ⟨120514, 120530, 1, -119569⟩, ⟨120532, 120538, 1, -119569⟩,
     ⟨120546, 120562, 1, -119601⟩, ⟨120564, 120570, 1, -119601⟩,
     ⟨120572, 120588, 1, -119627⟩, ⟨120590, 120596, 1, -119627⟩,
     ⟨120604, 120620, 1, -119659⟩, ⟨120622, 120628, 1, -119659⟩,
     ⟨120630, 120646, 1, -119685⟩, ⟨120648, 120654, 1, -119685⟩,
     ⟨120662, 120678, 1, -119717⟩, ⟨120680, 120686, 1, -119717⟩,
     ⟨120688, 120704, 1, -119743⟩, ⟨120706, 120712, 1, -119743⟩,
     ⟨120720, 120736, 1, -119775⟩, ⟨120738, 120744, 1, -119775⟩,
     ⟨120746, 120762, 1, -119801⟩, ⟨120764, 120770, 1, -119801⟩,
     ⟨120782, 120791, 1, -120734⟩, ⟨120792, 120801, 1, -120744⟩,
     ⟨120802, 120811, 1, -120754⟩, ⟨120812, 120821, 1, -120764⟩,
     ⟨120822, 120831, 1, -120774⟩, ⟨122928, 122936, 1, -121856⟩,
     ⟨122940, 122950, 1, -121854⟩, ⟨122961, 122969, 1, -121889⟩,
     ⟨122975, 122980, 1, -121884⟩, ⟨126474, 126477, 1, -124871⟩,
     ⟨126506, 126509, 1, -124903⟩, ⟨127280, 127305, 1, -127183⟩,
     ⟨130032, 130041, 1, -129984⟩]

/-- The texts that code points in the scripts of the alphabet stand for: those
from the given one on. -/
def letterTexts : List (Nat × List String) :=
    [(170, ["a"]), (178, ["2", "3"]), (181, ["μ"]), (185, ["1", "o"]),
     (188, ["1⁄4", "1⁄2", "3⁄4"]), (306, ["ij", "ij"]), (319, ["l\u00b7",
       "l\u00b7"]), (329, ["ʼn"]), (383, ["s"]), (452, ["dž", "dž", "dž", "lj",
       "lj", "lj", "nj", "nj", "nj"]), (497, ["dz", "dz", "dz"]), (688, ["h",
       "ɦ", "j", "r", "ɹ", "ɻ", "ʁ", "w", "y"]), (736, ["ɣ", "l", "s", "x",
       "ʕ"]), (837, ["ι"]), (931, ["σ"]), (976, ["β", "θ", "υ", "ύ", "ϋ", "φ",
       "π"]), (1008, ["κ", "ρ", "σ"]), (1013, ["ε"]), (1017, ["σ"]),
     (1415, ["եւ"]), (1653, ["\u0627\u0674", "\u0648\u0674", "\u06c7\u0674",
       "\u064a\u0674"]), (3635, ["\u0e4dา"]), (3763, ["\u0ecdາ"]), (3804, ["ຫນ",
       "ຫມ"]), (3852, ["་"]), (3959, ["\u0fb2\u0f71\u0f80"]),
     (3961, ["\u0fb3\u0f71\u0f80"]), (4348, ["ნ"]), (7296, ["в", "д", "о", "с",
       "т", "т", "ъ", "ѣ", "ꙋ"]), (7468, ["a", "æ", "b"]), (7472, ["d"]),
     (7474, ["ǝ"]),
     (7484, ["o", "ȣ", "p", "r", "t", "u", "w", "a", "ɐ", "ɑ", "ᴂ", "b", "d",
       "e", "ə", "ɛ", "ɜ", "g"]),
     (7503, ["k", "m", "ŋ", "o", "ɔ", "ᴖ", "ᴗ", "p", "t", "u", "ᴝ", "ɯ", "v",
       "ᴥ", "β", "γ", "δ", "φ", "χ", "i", "r", "u", "v", "β", "γ", "ρ", "φ",
       "χ"]),
     (7544, ["н"]),
     (7579, ["ɒ", "c", "ɕ", "ð", "ɜ", "f", "ɟ", "ɡ", "ɥ", "ɨ", "ɩ", "ɪ", "ᵻ",
       "ʝ", "ɭ", "ᶅ", "ʟ", "ɱ", "ɰ"]),
     (7602, ["ɸ", "ʂ", "ʃ", "ƫ", "ʉ", "ʊ", "ᴜ", "ʋ", "ʌ", "z", "ʐ", "ʑ", "ʒ",
       "θ"]),
     (7834, ["aʾ", "ṡ"]),
     (8064, ["ἀι", "ἁι", "ἂι", "ἃι", "ἄι", "ἅι", "ἆι", "ἇι", "ἀι", "ἁι", "ἂι",
       "ἃι", "ἄι", "ἅι", "ἆι", "ἇι", "ἠι", "ἡι", "ἢι", "ἣι", "ἤι", "ἥι", "ἦι",
       "ἧι", "ἠι", "ἡι", "ἢι", "ἣι", "ἤι", "ἥι", "ἦι", "ἧι", "ὠι", "ὡι", "ὢι",
       "ὣι", "ὤι", "ὥι", "ὦι", "ὧι", "ὠι", "ὡι", "ὢι", "ὣι", "ὤι", "ὥι", "ὦι",
       "ὧι"]),
     (8114, ["ὰι", "αι", "άι"]), (8119, ["ᾶι"]), (8124, ["αι"]), (8130, ["ὴι",
       "ηι", "ήι"]), (8135, ["ῆι"]), (8140, ["ηι"]), (8178, ["ὼι", "ωι", "ώι"]),
     (8183, ["ῶι"]), (8188, ["ωι"])]

/-- The texts that signs, letterlike characters and radicals stand for. -/
def signTexts : List (Nat × List String) :=
    [(8209, ["‐"]), (8243, ["′′", "′′′"]), (8246, ["‵‵", "‵‵‵"]),
     (8252, ["!!"]), (8279, ["′′′′"]), (8304, ["0", "i"]), (8314, ["+", "−",
       "=", "(", ")", "n"]), (8330, ["+", "−", "=", "(", ")"]), (8336, ["a",
       "e", "o", "x", "ə", "h"]), (8346, ["p", "s", "t"]), (8360, ["rs"]),
     (8450, ["c", "°c"]), (8455, ["ɛ"]), (8457, ["°f", "g", "h", "h", "h", "h",
       "ħ", "i", "i", "l", "l"]), (8469, ["n", "no"]), (8473, ["p", "q", "r",
       "r", "r"]), (8480, ["sm", "tel", "tm"]), (8484, ["z"]), (8488, ["z"]),
     (8492, ["b", "c"]), (8495, ["e", "e", "f"]), (8499, ["m", "o"]),
     (8505, ["i"]), (8507, ["fax", "π", "γ", "γ", "π", "∑"]), (8517, ["d", "d",
       "e", "i", "j"]),
     (8528, ["1⁄7", "1⁄9", "1⁄10", "1⁄3", "2⁄3", "1⁄5", "2⁄5", "3⁄5", "4⁄5",
       "1⁄6", "5⁄6", "1⁄8", "3⁄8", "5⁄8", "7⁄8", "1⁄", "i", "ii", "iii", "iv",
       "v", "vi", "vii", "viii", "ix", "x", "xi", "xii", "l", "c", "d", "m",
       "i", "ii", "iii", "iv", "v", "vi", "vii", "viii", "ix", "x", "xi", "xii",
       "l", "c", "d", "m"]),
     (8585, ["0⁄3"]), (8748, ["∫∫", "∫∫∫"]), (8751, ["∮∮", "∮∮∮"]),
     (9321, ["10", "11", "12", "13", "14", "15", "16", "17", "18", "19", "20",
       "(1)", "(2)", "(3)", "(4)", "(5)", "(6)", "(7)", "(8)", "(9)", "(10)",
       "(11)", "(12)", "(13)", "(14)", "(15)", "(16)", "(17)", "(18)", "(19)",
       "(20)"]),
     (9372, ["(a)", "(b)", "(c)", "(d)", "(e)", "(f)", "(g)", "(h)", "(i)",
       "(j)", "(k)", "(l)", "(m)", "(n)", "(o)", "(p)", "(q)", "(r)", "(s)",
       "(t)", "(u)", "(v)", "(w)", "(x)", "(y)", "(z)"]),
     (9450, ["0"]), (10764, ["∫∫∫∫"]), (10869, ["==", "==="]), (11388, ["j",
       "v"]), (11631, ["ⵡ"]), (11935, ["母"]), (12019, ["龟"]),
     (12032, ["一", "丨", "丶", "丿", "乙", "亅", "二", "亠", "人", "儿", "入", "八", "冂",
       "冖", "冫", "几", "凵", "刀", "力", "勹", "匕", "匚", "匸", "十", "卜", "卩", "厂",
       "厶", "又", "口", "囗", "土", "士", "夂", "夊", "夕", "大", "女", "子", "宀", "寸",
       "小", "尢", "尸", "屮", "山", "巛", "工", "己", "巾", "干", "幺", "广", "廴", "廾",
       "弋", "弓", "彐", "彡", "彳", "心", "戈", "戶", "手", "支", "攴", "文", "斗", "斤",
       "方", "无", "日", "曰", "月", "木", "欠", "止", "歹", "殳", "毋", "比", "毛", "氏",
       "气", "水", "火", "爪", "父", "爻", "爿", "片", "牙", "牛", "犬", "玄", "玉", "瓜",
       "瓦", "甘", "生", "用", "田", "疋", "疒", "癶", "白", "皮", "皿", "目", "矛", "矢",
       "石", "示", "禸", "禾", "穴", "立", "竹", "米", "糸", "缶", "网", "羊", "羽", "老",
       "而", "耒", "耳", "聿", "肉", "臣", "自", "至", "臼", "舌", "舛", "舟", "艮", "色",
       "艸", "虍", "虫", "血", "行", "衣", "襾", "見", "角", "言", "谷", "豆", "豕", "豸",
       "貝", "赤", "走", "足", "身", "車", "辛", "辰", "辵", "邑", "酉", "釆", "里", "金",
       "長", "門", "阜", "隶", "隹", "雨", "靑", "非", "面", "革", "韋", "韭", "音", "頁",
       "風", "飛", "食", "首", "香", "馬", "骨", "高", "髟", "鬥", "鬯", "鬲", "鬼", "魚",
       "鳥", "鹵", "鹿", "麥", "麻", "黃", "黍", "黑", "黹", "黽", "鼎", "鼓", "鼠", "鼻",
       "齊", "齒", "龍", "龜", "龠"]),
     (12290, ["."]), (12342, ["〒"]), (12344, ["十", "卄", "卅"]), (12447, ["より"]),
     (12543, ["コト"])]

/-- The texts that circled and squared characters stand for. -/
def squareTexts : List (Nat × List String) :=
    [(12593, ["ᄀ", "ᄁ", "ᆪ", "ᄂ", "ᆬ", "ᆭ", "ᄃ", "ᄄ", "ᄅ"]), (12608, ["ᄚ", "ᄆ",
       "ᄇ", "ᄈ", "ᄡ"]),
     (12645, ["ᄔ", "ᄕ", "ᇇ", "ᇈ", "ᇌ", "ᇎ", "ᇓ", "ᇗ", "ᇙ", "ᄜ", "ᇝ", "ᇟ", "ᄝ",
       "ᄞ", "ᄠ", "ᄢ", "ᄣ", "ᄧ", "ᄩ"]),
     (12669, ["ᄲ", "ᄶ", "ᅀ", "ᅇ", "ᅌ", "ᇱ", "ᇲ", "ᅗ", "ᅘ", "ᅙ", "ᆄ", "ᆅ", "ᆈ",
       "ᆑ", "ᆒ", "ᆔ", "ᆞ", "ᆡ"]),
     (12690, ["一", "二", "三", "四", "上", "中", "下", "甲", "乙", "丙", "丁", "天", "地",
       "人"]),
     (12800, ["(ᄀ)", "(ᄂ)", "(ᄃ)", "(ᄅ)", "(ᄆ)", "(ᄇ)", "(ᄉ)", "(ᄋ)", "(ᄌ)",
       "(ᄎ)", "(ᄏ)", "(ᄐ)", "(ᄑ)", "(ᄒ)", "(가)", "(나)", "(다)", "(라)", "(마)",
       "(바)", "(사)", "(아)", "(자)", "(차)", "(카)", "(타)", "(파)", "(하)", "(주)",
       "(오전)", "(오후)"]),
     (12832, ["(一)", "(二)", "(三)", "(四)", "(五)", "(六)", "(七)", "(八)", "(九)",
       "(十)", "(月)", "(火)", "(水)", "(木)", "(金)", "(土)", "(日)", "(株)", "(有)",
       "(社)", "(名)", "(特)", "(財)", "(祝)", "(労)", "(代)", "(呼)", "(学)", "(監)",
       "(企)", "(資)", "(協)", "(祭)", "(休)", "(自)", "(至)", "問", "幼", "文", "箏"]),
     (12880, ["pte", "21", "22", "23", "24", "25", "26", "27", "28", "29", "30",
       "31", "32", "33", "34", "35", "ᄀ", "ᄂ", "ᄃ", "ᄅ", "ᄆ", "ᄇ", "ᄉ", "ᄋ",
       "ᄌ"]),
     (12910, ["가", "나", "다", "라", "마", "바", "사", "아", "자", "차", "카", "타", "파",
       "하", "참고", "주의", "우"]),
     (12928, ["一", "二", "三", "四", "五", "六", "七", "八", "九", "十", "月", "火", "水",
       "木", "金", "土", "日", "株", "有", "社", "名", "特", "財", "祝", "労", "秘", "男",
       "女", "適", "優", "印", "注", "項", "休", "写", "正", "上", "中", "下", "左", "右",
       "医", "宗", "学", "監", "企", "資", "協", "夜", "36", "37", "38", "39", "40",
       "41", "42", "43", "44", "45", "46", "47", "48", "49", "50", "1月", "2月",
       "3月", "4月", "5月", "6月", "7月", "8月", "9月", "10月", "11月", "12月", "hg",
       "erg", "ev", "ltd", "ア", "イ", "ウ", "エ", "オ", "カ", "キ", "ク", "ケ", "コ",
       "サ", "シ", "ス", "セ", "ソ", "タ", "チ", "ツ", "テ", "ト"]),
     (13034, ["ヒ", "フ", "ヘ", "ホ"]), (13043, ["ヤ", "ユ"]),
     (13055, ["令和", "アパート", "アルファ", "アンペア", "アール", "イニング", "インチ", "ウォン",
       "エスクード", "エーカー", "オンス", "オーム", "カイリ", "カラット", "カロリー", "ガロン", "ガンマ", "ギガ",
       "ギニー", "キュリー", "ギルダー", "キロ", "キログラム", "キロメートル", "キロワット", "グラム", "グラムトン",
       "クルゼイロ", "クローネ", "ケース", "コルナ", "コーポ", "サイクル", "サンチーム", "シリング", "センチ",
       "セント", "ダース", "デシ", "ドル", "トン", "ナノ", "ノット", "ハイツ", "パーセント", "パーツ",
       "バーレル", "ピアストル", "ピクル", "ピコ", "ビル", "ファラッド", "フィート", "ブッシェル", "フラン",
       "ヘクタール", "ペソ", "ペニヒ", "ヘルツ", "ペンス", "ページ", "ベータ", "ポイント", "ボルト", "ホン",
       "ポンド", "ホール", "ホーン", "マイクロ", "マイル", "マッハ", "マルク", "マンション", "ミクロン", "ミリ",
       "ミリバール", "メガ", "メガトン", "メートル", "ヤード", "ヤール", "ユアン", "リットル", "リラ", "ルピー",
       "ルーブル", "レム", "レントゲン", "ワット", "0点", "1点", "2点", "3点", "4点", "5点", "6点",
       "7点", "8点", "9点", "10点", "11点", "12点", "13点", "14点", "15点", "16点", "17点",
       "18点", "19点", "20点", "21点", "22点", "23点", "24点", "hpa", "da", "au",
       "bar", "ov", "pc", "dm", "dm2", "dm3", "iu", "平成", "昭和", "大正", "明治",
       "株式会社", "pa", "na", "μa", "ma", "ka", "kb", "mb", "gb", "cal", "kcal",
       "pf", "nf", "μf", "μg", "mg", "kg", "hz", "khz", "mhz", "ghz", "thz",
       "μl", "ml", "dl", "kl", "fm", "nm", "μm", "mm", "cm", "km", "mm2", "cm2",
       "m2", "km2", "mm3", "cm3", "m3", "km3", "m∕s", "m∕s2", "pa", "kpa",
       "mpa", "gpa", "rad", "rad∕s", "rad∕s2", "ps", "ns", "μs", "ms", "pv",
       "nv", "μv", "mv", "kv", "mv", "pw", "nw", "μw", "mw", "kw", "mw", "kω",
       "mω"]),
     (13251, ["bq", "cc", "cd", "c∕kg"]),
     (13256, ["db", "gy", "ha", "hp", "in", "kk", "km", "kt", "lm", "ln", "log",
       "lx", "mb", "mil", "mol", "ph"]),
     (13273, ["ppm", "pr", "sr", "sv", "wb", "v∕m", "a∕m", "1日", "2日", "3日",
       "4日", "5日", "6日", "7日", "8日", "9日", "10日", "11日", "12日", "13日", "14日",
       "15日", "16日", "17日", "18日", "19日", "20日", "21日", "22日", "23日", "24日",
       "25日", "26日", "27日", "28日", "29日", "30日", "31日", "gal"]),
     (42652, ["ъ", "ь"]), (42864, ["ꝯ"]), (42993, ["s", "c", "f", "q"]),
     (43000, ["ħ", "œ"]), (43868, ["ꜧ", "ꬷ", "ɫ", "ꭒ"]), (43881, ["ʍ"])]

/-- The texts that ligatures and the forms of letters stand for. -/
def formTexts : List (Nat × List String) :=
    [(64256, ["ff", "fi", "fl", "ffi", "ffl", "st", "st"]), (64275, ["մն", "մե",
       "մի", "վն", "մխ"]),
     (64288, ["\u05e2", "\u05d0", "\u05d3", "\u05d4", "\u05db", "\u05dc",
       "\u05dd", "\u05e8", "\u05ea", "+"]),
     (64335, ["\u05d0\u05dc", "\u0671", "\u0671", "\u067b", "\u067b", "\u067b",
       "\u067b", "\u067e", "\u067e", "\u067e", "\u067e", "\u0680", "\u0680",
       "\u0680", "\u0680", "\u067a", "\u067a", "\u067a", "\u067a", "\u067f",
       "\u067f", "\u067f", "\u067f", "\u0679", "\u0679", "\u0679", "\u0679",
       "\u06a4", "\u06a4", "\u06a4", "\u06a4", "\u06a6", "\u06a6", "\u06a6",
       "\u06a6", "\u0684", "\u0684", "\u0684", "\u0684", "\u0683", "\u0683",
       "\u0683", "\u0683", "\u0686", "\u0686", "\u0686", "\u0686", "\u0687",
       "\u0687", "\u0687", "\u0687", "\u068d", "\u068d", "\u068c", "\u068c",
       "\u068e", "\u068e", "\u0688", "\u0688", "\u0698", "\u0698", "\u0691",
       "\u0691", "\u06a9", "\u06a9", "\u06a9", "\u06a9", "\u06af", "\u06af",
       "\u06af", "\u06af", "\u06b3", "\u06b3", "\u06b3", "\u06b3", "\u06b1",
       "\u06b1", "\u06b1", "\u06b1", "\u06ba", "\u06ba", "\u06bb", "\u06bb",
       "\u06bb", "\u06bb", "\u06c0", "\u06c0", "\u06c1", "\u06c1", "\u06c1",
       "\u06c1", "\u06be", "\u06be", "\u06be", "\u06be", "\u06d2", "\u06d2",
       "\u06d3", "\u06d3"]),
     (64467, ["\u06ad", "\u06ad", "\u06ad", "\u06ad", "\u06c7", "\u06c7",
       "\u06c6", "\u06c6", "\u06c8", "\u06c8", "\u06c7\u0674", "\u06cb",
       "\u06cb", "\u06c5", "\u06c5", "\u06c9", "\u06c9", "\u06d0", "\u06d0",
       "\u06d0", "\u06d0", "\u0649", "\u0649", "\u0626\u0627", "\u0626\u0627",
       "\u0626\u06d5", "\u0626\u06d5", "\u0626\u0648", "\u0626\u0648",
       "\u0626\u06c7", "\u0626\u06c7", "\u0626\u06c6", "\u0626\u06c6",
       "\u0626\u06c8", "\u0626\u06c8", "\u0626\u06d0", "\u0626\u06d0",
       "\u0626\u06d0", "\u0626\u0649", "\u0626\u0649", "\u0626\u0649", "\u06cc",
       "\u06cc", "\u06cc", "\u06cc", "\u0626\u062c", "\u0626\u062d",
       "\u0626\u0645", "\u0626\u0649", "\u0626\u064a", "\u0628\u062c",
       "\u0628\u062d", "\u0628\u062e", "\u0628\u0645", "\u0628\u0649",
       "\u0628\u064a", "\u062a\u062c", "\u062a\u062d", "\u062a\u062e",
       "\u062a\u0645", "\u062a\u0649", "\u062a\u064a", "\u062b\u062c",
       "\u062b\u0645", "\u062b\u0649", "\u062b\u064a", "\u062c\u062d",
       "\u062c\u0645", "\u062d\u062c", "\u062d\u0645", "\u062e\u062c",
       "\u062e\u062d", "\u062e\u0645", "\u0633\u062c", "\u0633\u062d",
       "\u0633\u062e", "\u0633\u0645", "\u0635\u062d", "\u0635\u0645",
       "\u0636\u062c", "\u0636\u062d", "\u0636\u062e", "\u0636\u0645",
       "\u0637\u062d", "\u0637\u0645", "\u0638\u0645", "\u0639\u062c",
       "\u0639\u0645", "\u063a\u062c", "\u063a\u0645", "\u0641\u062c",
       "\u0641\u062d", "\u0641\u062e", "\u0641\u0645", "\u0641\u0649",
       "\u0641\u064a", "\u0642\u062d", "\u0642\u0645", "\u0642\u0649",
       "\u0642\u064a", "\u0643\u0627", "\u0643\u062c", "\u0643\u062d",
       "\u0643\u062e", "\u0643\u0644", "\u0643\u0645", "\u0643\u0649",
       "\u0643\u064a", "\u0644\u062c", "\u0644\u062d", "\u0644\u062e",
       "\u0644\u0645", "\u0644\u0649", "\u0644\u064a", "\u0645\u062c",
       "\u0645\u062d", "\u0645\u062e", "\u0645\u0645", "\u0645\u0649",
       "\u0645\u064a", "\u0646\u062c", "\u0646\u062d", "\u0646\u062e",
       "\u0646\u0645", "\u0646\u0649", "\u0646\u064a", "\u0647\u062c",
       "\u0647\u0645", "\u0647\u0649", "\u0647\u064a", "\u064a\u062c",
       "\u064a\u062d", "\u064a\u062e", "\u064a\u0645", "\u064a\u0649",
       "\u064a\u064a", "\u0630\u0670", "\u0631\u0670", "\u0649\u0670"]),
     (64612, ["\u0626\u0631", "\u0626\u0632", "\u0626\u0645", "\u0626\u0646",
       "\u0626\u0649", "\u0626\u064a", "\u0628\u0631", "\u0628\u0632",
       "\u0628\u0645", "\u0628\u0646", "\u0628\u0649", "\u0628\u064a",
       "\u062a\u0631", "\u062a\u0632", "\u062a\u0645", "\u062a\u0646",
       "\u062a\u0649", "\u062a\u064a", "\u062b\u0631", "\u062b\u0632",
       "\u062b\u0645", "\u062b\u0646", "\u062b\u0649", "\u062b\u064a",
       "\u0641\u0649", "\u0641\u064a", "\u0642\u0649", "\u0642\u064a",
       "\u0643\u0627", "\u0643\u0644", "\u0643\u0645", "\u0643\u0649",
       "\u0643\u064a", "\u0644\u0645", "\u0644\u0649", "\u0644\u064a",
       "\u0645\u0627", "\u0645\u0645", "\u0646\u0631", "\u0646\u0632",
       "\u0646\u0645", "\u0646\u0646", "\u0646\u0649", "\u0646\u064a",
       "\u0649\u0670", "\u064a\u0631", "\u064a\u0632", "\u064a\u0645",
       "\u064a\u0646", "\u064a\u0649", "\u064a\u064a", "\u0626\u062c",
       "\u0626\u062d", "\u0626\u062e", "\u0626\u0645", "\u0626\u0647",
       "\u0628\u062c", "\u0628\u062d", "\u0628\u062e", "\u0628\u0645",
       "\u0628\u0647", "\u062a\u062c", "\u062a\u062d", "\u062a\u062e",
       "\u062a\u0645", "\u062a\u0647", "\u062b\u0645", "\u062c\u062d",
       "\u062c\u0645", "\u062d\u062c", "\u062d\u0645", "\u062e\u062c",
       "\u062e\u0645", "\u0633\u062c", "\u0633\u062d", "\u0633\u062e",
       "\u0633\u0645", "\u0635\u062d", "\u0635\u062e", "\u0635\u0645",
       "\u0636\u062c", "\u0636\u062d", "\u0636\u062e", "\u0636\u0645",
       "\u0637\u062d", "\u0638\u0645", "\u0639\u062c", "\u0639\u0645",
       "\u063a\u062c", "\u063a\u0645", "\u0641\u062c", "\u0641\u062d",
       "\u0641\u062e", "\u0641\u0645", "\u0642\u062d", "\u0642\u0645",
       "\u0643\u062c", "\u0643\u062d", "\u0643\u062e", "\u0643\u0644",
       "\u0643\u0645", "\u0644\u062c", "\u0644\u062d", "\u0644\u062e",
       "\u0644\u0645", "\u0644\u0647", "\u0645\u062c", "\u0645\u062d",
       "\u0645\u062e", "\u0645\u0645", "\u0646\u062c", "\u0646\u062d",
       "\u0646\u062e", "\u0646\u0645", "\u0646\u0647", "\u0647\u062c",
       "\u0647\u0645", "\u0647\u0670", "\u064a\u062c", "\u064a\u062d",
       "\u064a\u062e", "\u064a\u0645", "\u064a\u0647", "\u0626\u0645",
       "\u0626\u0647", "\u0628\u0645", "\u0628\u0647", "\u062a\u0645",
       "\u062a\u0647", "\u062b\u0645", "\u062b\u0647", "\u0633\u0645",
       "\u0633\u0647", "\u0634\u0645", "\u0634\u0647", "\u0643\u0644",
       "\u0643\u0645", "\u0644\u0645", "\u0646\u0645", "\u0646\u0647",
       "\u064a\u0645", "\u064a\u0647", "\u0640\u064e\u0651",
       "\u0640\u064f\u0651", "\u0640\u0650\u0651", "\u0637\u0649",
       "\u0637\u064a", "\u0639\u0649", "\u0639\u064a", "\u063a\u0649",
       "\u063a\u064a", "\u0633\u0649", "\u0633\u064a", "\u0634\u0649",
       "\u0634\u064a", "\u062d\u0649", "\u062d\u064a", "\u062c\u0649",
       "\u062c\u064a", "\u062e\u0649", "\u062e\u064a", "\u0635\u0649",
       "\u0635\u064a", "\u0636\u0649", "\u0636\u064a", "\u0634\u062c",
       "\u0634\u062d", "\u0634\u062e", "\u0634\u0645", "\u0634\u0631",
       "\u0633\u0631", "\u0635\u0631", "\u0636\u0631", "\u0637\u0649",
       "\u0637\u064a", "\u0639\u0649", "\u0639\u064a", "\u063a\u0649",
       "\u063a\u064a", "\u0633\u0649", "\u0633\u064a", "\u0634\u0649",
       "\u0634\u064a", "\u062d\u0649", "\u062d\u064a", "\u062c\u0649",
       "\u062c\u064a", "\u062e\u0649", "\u062e\u064a", "\u0635\u0649",
       "\u0635\u064a", "\u0636\u0649", "\u0636\u064a", "\u0634\u062c",
       "\u0634\u062d", "\u0634\u062e", "\u0634\u0645", "\u0634\u0631",
       "\u0633\u0631", "\u0635\u0631", "\u0636\u0631", "\u0634\u062c",
       "\u0634\u062d", "\u0634\u062e", "\u0634\u0645", "\u0633\u0647",
       "\u0634\u0647", "\u0637\u0645", "\u0633\u062c", "\u0633\u062d",
       "\u0633\u062e", "\u0634\u062c", "\u0634\u062d", "\u0634\u062e",
       "\u0637\u0645", "\u0638\u0645", "\u0627\u064b", "\u0627\u064b"]),
     (64848, ["\u062a\u062c\u0645", "\u062a\u062d\u062c", "\u062a\u062d\u062c",
       "\u062a\u062d\u0645", "\u062a\u062e\u0645", "\u062a\u0645\u062c",
       "\u062a\u0645\u062d", "\u062a\u0645\u062e", "\u062c\u0645\u062d",
       "\u062c\u0645\u062d", "\u062d\u0645\u064a", "\u062d\u0645\u0649",
       "\u0633\u062d\u062c", "\u0633\u062c\u062d", "\u0633\u062c\u0649",
       "\u0633\u0645\u062d", "\u0633\u0645\u062d", "\u0633\u0645\u062c",
       "\u0633\u0645\u0645", "\u0633\u0645\u0645", "\u0635\u062d\u062d",
       "\u0635\u062d\u062d", "\u0635\u0645\u0645", "\u0634\u062d\u0645",
       "\u0634\u062d\u0645", "\u0634\u062c\u064a", "\u0634\u0645\u062e",
       "\u0634\u0645\u062e", "\u0634\u0645\u0645", "\u0634\u0645\u0645",
       "\u0636\u062d\u0649", "\u0636\u062e\u0645", "\u0636\u062e\u0645",
       "\u0637\u0645\u062d", "\u0637\u0645\u062d", "\u0637\u0645\u0645",
       "\u0637\u0645\u064a", "\u0639\u062c\u0645", "\u0639\u0645\u0645",
       "\u0639\u0645\u0645", "\u0639\u0645\u0649", "\u063a\u0645\u0645",
       "\u063a\u0645\u064a", "\u063a\u0645\u0649", "\u0641\u062e\u0645",
       "\u0641\u062e\u0645", "\u0642\u0645\u062d", "\u0642\u0645\u0645",
       "\u0644\u062d\u0645", "\u0644\u062d\u064a", "\u0644\u062d\u0649",
       "\u0644\u062c\u062c", "\u0644\u062c\u062c", "\u0644\u062e\u0645",
       "\u0644\u062e\u0645", "\u0644\u0645\u062d", "\u0644\u0645\u062d",
       "\u0645\u062d\u062c", "\u0645\u062d\u0645", "\u0645\u062d\u064a",
       "\u0645\u062c\u062d", "\u0645\u062c\u0645", "\u0645\u062e\u062c",
       "\u0645\u062e\u0645"]),
     (64914, ["\u0645\u062c\u062e", "\u0647\u0645\u062c", "\u0647\u0645\u0645",
       "\u0646\u062d\u0645", "\u0646\u062d\u0649", "\u0646\u062c\u0645",
       "\u0646\u062c\u0645", "\u0646\u062c\u0649", "\u0646\u0645\u064a",
       "\u0646\u0645\u0649", "\u064a\u0645\u0645", "\u064a\u0645\u0645",
       "\u0628\u062e\u064a", "\u062a\u062c\u064a", "\u062a\u062c\u0649",
       "\u062a\u062e\u064a", "\u062a\u062e\u0649", "\u062a\u0645\u064a",
       "\u062a\u0645\u0649", "\u062c\u0645\u064a", "\u062c\u062d\u0649",
       "\u062c\u0645\u0649", "\u0633\u062e\u0649", "\u0635\u062d\u064a",
       "\u0634\u062d\u064a", "\u0636\u062d\u064a", "\u0644\u062c\u064a",
       "\u0644\u0645\u064a", "\u064a\u062d\u064a", "\u064a\u062c\u064a",
       "\u064a\u0645\u064a", "\u0645\u0645\u064a", "\u0642\u0645\u064a",
       "\u0646\u062d\u064a", "\u0642\u0645\u062d", "\u0644\u062d\u0645",
       "\u0639\u0645\u064a", "\u0643\u0645\u064a", "\u0646\u062c\u062d",
       "\u0645\u062e\u064a", "\u0644\u062c\u0645", "\u0643\u0645\u0645",
       "\u0644\u062c\u0645", "\u0646\u062c\u062d", "\u062c\u062d\u064a",
       "\u062d\u062c\u064a", "\u0645\u062c\u064a", "\u0641\u0645\u064a",
       "\u0628\u062d\u064a", "\u0643\u0645\u0645", "\u0639\u062c\u0645",
       "\u0635\u0645\u0645", "\u0633\u062e\u064a", "\u0646\u062c\u064a"]),
     (65008, ["\u0635\u0644\u06d2", "\u0642\u0644\u06d2",
       "\u0627\u0644\u0644\u0647", "\u0627\u0643\u0628\u0631",
       "\u0645\u062d\u0645\u062f", "\u0635\u0644\u0639\u0645",
       "\u0631\u0633\u0648\u0644", "\u0639\u0644\u064a\u0647",
       "\u0648\u0633\u0644\u0645", "\u0635\u0644\u0649"]),
     (65020, ["\u0631\u06cc\u0627\u0644"]), (65040, [",", "、"]), (65044, [";",
       "!"]), (65047, ["〖", "〗"]),
     (65073, ["—", "–", "_", "_", "(", ")", "\x7b", "\x7d", "〔", "〕", "【", "】",
       "《", "》", "〈", "〉"]),
     (65101, ["_", "_", "_", ",", "、"]), (65108, [";"]), (65111, ["!", "—", "(",
       ")", "\x7b", "\x7d", "〔", "〕"]), (65120, ["&", "*", "+", "-"]),
     (65126, ["="]), (65129, ["$"]), (65137, ["\u0640\u064b"]),
     (65143, ["\u0640\u064e"]), (65145, ["\u0640\u064f"]),
     (65147, ["\u0640\u0650"]), (65149, ["\u0640\u0651"]),
     (65151, ["\u0640\u0652", "\u0621", "\u0622", "\u0622", "\u0623", "\u0623",
       "\u0624", "\u0624", "\u0625", "\u0625", "\u0626", "\u0626", "\u0626",
       "\u0626", "\u0627", "\u0627", "\u0628", "\u0628", "\u0628", "\u0628",
       "\u0629", "\u0629", "\u062a", "\u062a", "\u062a", "\u062a", "\u062b",
       "\u062b", "\u062b", "\u062b", "\u062c", "\u062c", "\u062c", "\u062c",
       "\u062d", "\u062d", "\u062d", "\u062d", "\u062e", "\u062e", "\u062e",
       "\u062e", "\u062f", "\u062f", "\u0630", "\u0630", "\u0631", "\u0631",
       "\u0632", "\u0632", "\u0633", "\u0633", "\u0633", "\u0633", "\u0634",
       "\u0634", "\u0634", "\u0634", "\u0635", "\u0635", "\u0635", "\u0635",
       "\u0636", "\u0636", "\u0636", "\u0636", "\u0637", "\u0637", "\u0637",
       "\u0637", "\u0638", "\u0638", "\u0638", "\u0638", "\u0639", "\u0639",
       "\u0639", "\u0639", "\u063a", "\u063a", "\u063a", "\u063a", "\u0641",
       "\u0641", "\u0641", "\u0641", "\u0642", "\u0642", "\u0642", "\u0642",
       "\u0643", "\u0643", "\u0643", "\u0643", "\u0644", "\u0644", "\u0644",
       "\u0644", "\u0645", "\u0645", "\u0645", "\u0645", "\u0646", "\u0646",
       "\u0646", "\u0646", "\u0647", "\u0647", "\u0647", "\u0647", "\u0648",
       "\u0648", "\u0649", "\u0649", "\u064a", "\u064a", "\u064a", "\u064a",
       "\u0644\u0622", "\u0644\u0622", "\u0644\u0623", "\u0644\u0623",
       "\u0644\u0625", "\u0644\u0625", "\u0644\u0627", "\u0644\u0627"]),
     (65281, ["!", "\x22"]),
     (65373, ["\x7d", "~", "⦅", "⦆", ".", "「", "」", "、", "・", "ヲ", "ァ", "ィ",
       "ゥ", "ェ", "ォ", "ャ", "ュ", "ョ", "ッ", "ー", "ア", "イ", "ウ", "エ", "オ", "カ",
       "キ", "ク", "ケ", "コ", "サ", "シ", "ス", "セ", "ソ", "タ", "チ", "ツ", "テ", "ト"]),
     (65419, ["ヒ", "フ", "ヘ", "ホ"]), (65428, ["ヤ", "ユ"]), (65436, ["ワ", "ン",
       "\u3099", "\u309a"]), (65441, ["ᄀ", "ᄁ", "ᆪ", "ᄂ", "ᆬ", "ᆭ", "ᄃ", "ᄄ",
       "ᄅ"]), (65456, ["ᄚ", "ᄆ", "ᄇ", "ᄈ", "ᄡ"]), (65498, ["ᅳ", "ᅴ", "ᅵ"]),
     (65504, ["¢", "£", "¬"]), (65508, ["¦", "¥", "₩"]), (65512, ["│"]),
     (65517, ["■", "○"])]

/-- The texts that letters in other faces stand for. -/
def faceTexts : List (Nat × List String) :=
    [(67457, ["ː", "ˑ", "æ", "ʙ", "ɓ"]),
     (67463, ["ʣ", "ꭦ", "ʥ", "ʤ", "ɖ", "ɗ", "ᶑ", "ɘ", "ɞ", "ʩ", "ɤ", "ɢ", "ɠ",
       "ʛ", "ħ", "ʜ", "ɧ", "ʄ", "ʪ", "ʫ", "ɬ", "𝼄", "ꞎ", "ɮ", "𝼅", "ʎ", "𝼆",
       "ø", "ɶ", "ɷ", "q", "ɺ", "𝼈", "ɽ", "ɾ", "ʀ", "ʨ", "ʦ", "ꭧ", "ʧ", "ʈ",
       "ⱱ"]),
     (67506, ["ʏ", "ʡ", "ʢ", "ʘ", "ǀ", "ǁ", "ǂ", "𝼊", "𝼞"]), (119887, ["b"]),
     (119889, ["d"]), (119891, ["f"]), (119964, ["a"]), (119966, ["c", "d"]),
     (119970, ["g"]), (119973, ["j", "k"]), (119998, ["i"]), (120000, ["k"]),
     (120002, ["m"]), (120068, ["a", "b"]), (120120, ["a", "b"]),
     (120134, ["o"]), (120484, ["ı", "ȷ"]), (120505, ["θ"]), (120513, ["∇"]),
     (120531, ["σ"]), (120539, ["∂", "ε", "θ", "κ", "φ", "ρ", "π"]),
     (120563, ["θ"]), (120571, ["∇"]), (120589, ["σ"]), (120597, ["∂", "ε", "θ",
       "κ", "φ", "ρ", "π"]), (120621, ["θ"]), (120629, ["∇"]), (120647, ["σ"]),
     (120655, ["∂", "ε", "θ", "κ", "φ", "ρ", "π"]), (120679, ["θ"]),
     (120687, ["∇"]), (120705, ["σ"]), (120713, ["∂", "ε", "θ", "κ", "φ", "ρ",
       "π"]), (120737, ["θ"]), (120745, ["∇"]), (120763, ["σ"]), (120771, ["∂",
       "ε", "θ", "κ", "φ", "ρ", "π", "ϝ", "ϝ"]), (122937, ["к", "л", "м"]),
     (122951, ["ы", "э", "ю", "ꚉ", "ә", "і", "ј", "ө", "ү", "ӏ"]),
     (122970, ["к", "л", "о", "п", "с"]), (122981, ["ъ", "ы", "ґ", "і", "ѕ",
       "џ", "ҫ", "ꙑ", "ұ"]), (126464, ["\u0627", "\u0628", "\u062c", "\u062f"]),
     (126469, ["\u0648", "\u0632", "\u062d", "\u0637", "\u064a"]),
     (126478, ["\u0633", "\u0639", "\u0641", "\u0635", "\u0642", "\u0631",
       "\u0634", "\u062a", "\u062b", "\u062e", "\u0630", "\u0636", "\u0638",
       "\u063a", "\u066e", "\u06ba", "\u06a1", "\u066f"]),
     (126497, ["\u0628", "\u062c"]), (126500, ["\u0647"]), (126503, ["\u062d"]),
     (126505, ["\u064a"]), (126510, ["\u0633", "\u0639", "\u0641", "\u0635",
       "\u0642"]), (126516, ["\u0634", "\u062a", "\u062b", "\u062e"]),
     (126521, ["\u0636"]), (126523, ["\u063a"]), (126530, ["\u062c"]),
     (126535, ["\u062d"]), (126537, ["\u064a"]), (126539, ["\u0644"]),
     (126541, ["\u0646", "\u0633", "\u0639"]), (126545, ["\u0635", "\u0642"]),
     (126548, ["\u0634"]), (126551, ["\u062e"]), (126553, ["\u0636"]),
     (126555, ["\u063a"]), (126557, ["\u06ba"]), (126559, ["\u066f"]),
     (126561, ["\u0628", "\u062c"]), (126564, ["\u0647"]), (126567, ["\u062d",
       "\u0637", "\u064a", "\u0643"]),
     (126572, ["\u0645", "\u0646", "\u0633", "\u0639", "\u0641", "\u0635",
       "\u0642"]),
     (126580, ["\u0634", "\u062a", "\u062b", "\u062e"]), (126585, ["\u0636",
       "\u0638", "\u063a", "\u066e"]), (126590, ["\u06a1"]),
     (126592, ["\u0627", "\u0628", "\u062c", "\u062f", "\u0647", "\u0648",
       "\u0632", "\u062d", "\u0637", "\u064a"]),
     (126603, ["\u0644", "\u0645", "\u0646", "\u0633", "\u0639", "\u0641",
       "\u0635", "\u0642", "\u0631", "\u0634", "\u062a", "\u062b", "\u062e",
       "\u0630", "\u0636", "\u0638", "\u063a"]),
     (126625, ["\u0628", "\u062c", "\u062f"]), (126629, ["\u0648", "\u0632",
       "\u062d", "\u0637", "\u064a"]),
     (126635, ["\u0644", "\u0645", "\u0646", "\u0633", "\u0639", "\u0641",
       "\u0635", "\u0642", "\u0631", "\u0634", "\u062a", "\u062b", "\u062e",
       "\u0630", "\u0636", "\u0638", "\u063a"]),
     (127233, ["0,", "1,", "2,", "3,", "4,", "5,", "6,", "7,", "8,", "9,"]),
     (127248, ["(a)", "(b)", "(c)", "(d)", "(e)", "(f)", "(g)", "(h)", "(i)",
       "(j)", "(k)", "(l)", "(m)", "(n)", "(o)", "(p)", "(q)", "(r)", "(s)",
       "(t)", "(u)", "(v)", "(w)", "(x)", "(y)", "(z)", "〔s〕", "c", "r", "cd",
       "wz"]),
     (127306, ["hv", "mv", "sd", "ss", "ppv", "wc"]), (127338, ["mc", "md",
       "mr"]), (127376, ["dj"]), (127488, ["ほか", "ココ", "サ"]),
     (127504, ["手", "字", "双", "デ", "二", "多", "解", "天", "交", "映", "無", "料", "前",
       "後", "再", "新", "初", "終", "生", "販", "声", "吹", "演", "投", "捕", "一", "三",
       "遊", "左", "中", "右", "指", "走", "打", "禁", "空", "合", "満", "有", "月", "申",
       "割", "営", "配"]),
     (127552, ["〔本〕", "〔三〕", "〔二〕", "〔安〕", "〔点〕", "〔打〕", "〔盗〕", "〔勝〕", "〔敗〕"]),
     (127568, ["得", "可"])]

/-- The texts that code points stand for: those from each given code point on,
one after the other. -/
def foldingTexts : List (Nat × List String) :=
  letterTexts ++ signTexts ++ squareTexts ++ formTexts ++ faceTexts

end SchemaScope.Uri.Name
