import ResourceEditor.Text.Lowercase
/-
This file holds the texts that stand for characters in domain names.
-/

namespace ResourceEditor.Domain

/-- Texts for characters one after another, with bars between them. -/
structure ReplacementRun where
  first : Nat
  texts : String

/-- The replacements of characters that have another text than their lower case. -/
def replacementRuns : List ReplacementRun :=
  [
    ⟨0xA0, "\x20"⟩, ⟨0xA8, "\x20\u0308"⟩, ⟨0xAA, "a"⟩, ⟨0xAF, "\x20\u0304"⟩,
    ⟨0xB2, "2|3|\x20\u0301|μ"⟩, ⟨0xB8, "\x20\u0327|1|o"⟩, ⟨0xBC, "1⁄4|1⁄2|3⁄4"⟩, ⟨0x132, "ij|ij"⟩,
    ⟨0x13F, "l\u00B7|l\u00B7"⟩, ⟨0x149, "\u02BCn"⟩, ⟨0x17F, "s"⟩,
    ⟨0x1C4, "dž|dž|dž|lj|lj|lj|nj|nj|nj"⟩, ⟨0x1F1, "dz|dz|dz"⟩, ⟨0x2B0, "h|ɦ|j|r|ɹ|ɻ|ʁ|w|y"⟩,
    ⟨0x2D8, "\x20\u0306|\x20\u0307|\x20\u030A|\x20\u0328|\x20\u0303|\x20\u030B"⟩,
    ⟨0x2E0, "ɣ|l|s|x|ʕ"⟩, ⟨0x340, "\u0300|\u0301"⟩, ⟨0x343, "\u0313|\u0308\u0301|ι"⟩,
    ⟨0x374, "\u02B9"⟩, ⟨0x37A, "\x20ι"⟩, ⟨0x37E, ";"⟩, ⟨0x384, "\x20\u0301|\x20\u0308\u0301"⟩,
    ⟨0x387, "\u00B7"⟩, ⟨0x3D0, "β|θ|υ|ύ|ϋ|φ|π"⟩, ⟨0x3F0, "κ|ρ|σ"⟩, ⟨0x3F5, "ε"⟩, ⟨0x3F9, "σ"⟩,
    ⟨0x587, "եւ"⟩, ⟨0x675, "\u0627\u0674|\u0648\u0674|\u06C7\u0674|\u064A\u0674"⟩,
    ⟨0x958, "क\u093C|ख\u093C|ग\u093C|ज\u093C|ड\u093C|ढ\u093C|फ\u093C|य\u093C"⟩,
    ⟨0x9DC, "ড\u09BC|ঢ\u09BC"⟩, ⟨0x9DF, "য\u09BC"⟩, ⟨0xA33, "ਲ\u0A3C"⟩, ⟨0xA36, "ਸ\u0A3C"⟩,
    ⟨0xA59, "ਖ\u0A3C|ਗ\u0A3C|ਜ\u0A3C"⟩, ⟨0xA5E, "ਫ\u0A3C"⟩, ⟨0xB5C, "ଡ\u0B3C|ଢ\u0B3C"⟩,
    ⟨0xE33, "\u0E4Dา"⟩, ⟨0xEB3, "\u0ECDາ"⟩, ⟨0xEDC, "ຫນ|ຫມ"⟩, ⟨0xF0C, "\u0F0B"⟩, ⟨0xF43, "ག\u0FB7"⟩,
    ⟨0xF4D, "ཌ\u0FB7"⟩, ⟨0xF52, "ད\u0FB7"⟩, ⟨0xF57, "བ\u0FB7"⟩, ⟨0xF5C, "ཛ\u0FB7"⟩,
    ⟨0xF69, "ཀ\u0FB5"⟩, ⟨0xF73, "\u0F71\u0F72"⟩,
    ⟨0xF75, "\u0F71\u0F74|\u0FB2\u0F80|\u0FB2\u0F71\u0F80|\u0FB3\u0F80|\u0FB3\u0F71\u0F80"⟩,
    ⟨0xF81, "\u0F71\u0F80"⟩, ⟨0xF93, "\u0F92\u0FB7"⟩, ⟨0xF9D, "\u0F9C\u0FB7"⟩,
    ⟨0xFA2, "\u0FA1\u0FB7"⟩, ⟨0xFA7, "\u0FA6\u0FB7"⟩, ⟨0xFAC, "\u0FAB\u0FB7"⟩,
    ⟨0xFB9, "\u0F90\u0FB5"⟩, ⟨0x10FC, "ნ"⟩, ⟨0x13F8, "Ᏸ|Ᏹ|Ᏺ|Ᏻ|Ᏼ|Ᏽ"⟩, ⟨0x1C80, "в|д|о|с|т|т|ъ|ѣ|ꙋ"⟩,
    ⟨0x1D2C, "a|æ|b"⟩, ⟨0x1D30, "d|e|ǝ|g|h|i|j|k|l|m|n"⟩,
    ⟨0x1D3C, "o|ȣ|p|r|t|u|w|a|ɐ|ɑ|ᴂ|b|d|e|ə|ɛ|ɜ|g"⟩,
    ⟨0x1D4F, "k|m|ŋ|o|ɔ|ᴖ|ᴗ|p|t|u|ᴝ|ɯ|v|ᴥ|β|γ|δ|φ|χ|i|r|u|v|β|γ|ρ|φ|χ"⟩, ⟨0x1D78, "н"⟩,
    ⟨0x1D9B, "ɒ|c|ɕ|ð|ɜ|f|ɟ|ɡ|ɥ|ɨ|ɩ|ɪ|ᵻ|ʝ|ɭ|ᶅ|ʟ|ɱ|ɰ|ɲ|ɳ|ɴ|ɵ|ɸ|ʂ|ʃ|ƫ|ʉ|ʊ|ᴜ|ʋ|ʌ|z|ʐ|ʑ|ʒ|θ"⟩,
    ⟨0x1E9A, "a\u02BE|ṡ"⟩, ⟨0x1F71, "ά"⟩, ⟨0x1F73, "έ"⟩, ⟨0x1F75, "ή"⟩, ⟨0x1F77, "ί"⟩,
    ⟨0x1F79, "ό"⟩, ⟨0x1F7B, "ύ"⟩, ⟨0x1F7D, "ώ"⟩,
    ⟨0x1F80, "ἀι|ἁι|ἂι|ἃι|ἄι|ἅι|ἆι|ἇι|ἀι|ἁι|ἂι|ἃι|ἄι|ἅι|ἆι|ἇι|ἠι|ἡι|ἢι|ἣι|ἤι|ἥι|ἦι|ἧι|ἠι|ἡι|ἢι|ἣι"⟩,
    ⟨0x1F9C, "ἤι|ἥι|ἦι|ἧι|ὠι|ὡι|ὢι|ὣι|ὤι|ὥι|ὦι|ὧι|ὠι|ὡι|ὢι|ὣι|ὤι|ὥι|ὦι|ὧι"⟩, ⟨0x1FB2, "ὰι|αι|άι"⟩,
    ⟨0x1FB7, "ᾶι"⟩, ⟨0x1FBB, "ά|αι|\x20\u0313|ι|\x20\u0313|\x20\u0342|\x20\u0308\u0342|ὴι|ηι|ήι"⟩,
    ⟨0x1FC7, "ῆι"⟩, ⟨0x1FC9, "έ"⟩,
    ⟨0x1FCB, "ή|ηι|\x20\u0313\u0300|\x20\u0313\u0301|\x20\u0313\u0342"⟩, ⟨0x1FD3, "ΐ"⟩,
    ⟨0x1FDB, "ί"⟩, ⟨0x1FDD, "\x20\u0314\u0300|\x20\u0314\u0301|\x20\u0314\u0342"⟩, ⟨0x1FE3, "ΰ"⟩,
    ⟨0x1FEB, "ύ"⟩, ⟨0x1FED, "\x20\u0308\u0300|\x20\u0308\u0301|\x60"⟩, ⟨0x1FF2, "ὼι|ωι|ώι"⟩,
    ⟨0x1FF7, "ῶι"⟩, ⟨0x1FF9, "ό"⟩, ⟨0x1FFB, "ώ|ωι|\x20\u0301|\x20\u0314"⟩,
    ⟨0x2000, "\x20|\x20|\x20|\x20|\x20|\x20|\x20|\x20|\x20|\x20|\x20"⟩, ⟨0x2011, "\u2010"⟩,
    ⟨0x2017, "\x20\u0333"⟩, ⟨0x202F, "\x20"⟩, ⟨0x2033, "\u2032\u2032|\u2032\u2032\u2032"⟩,
    ⟨0x2036, "\u2035\u2035|\u2035\u2035\u2035"⟩, ⟨0x203C, "!!"⟩, ⟨0x203E, "\x20\u0305"⟩,
    ⟨0x2047, "??|?!|!?"⟩, ⟨0x2057, "\u2032\u2032\u2032\u2032"⟩, ⟨0x205F, "\x20"⟩, ⟨0x2070, "0|i"⟩,
    ⟨0x2074, "4|5|6|7|8|9|+|−|=|(|)|n|0|1|2|3|4|5|6|7|8|9|+|−|=|(|)"⟩,
    ⟨0x2090, "a|e|o|x|ə|h|k|l|m|n|p|s|t"⟩, ⟨0x20A8, "rs"⟩, ⟨0x2100, "a/c|a/s|c|°c"⟩,
    ⟨0x2105, "c/o|c/u|ɛ"⟩, ⟨0x2109, "°f|g|h|h|h|h|ħ|i|i|l|l"⟩, ⟨0x2115, "n|no"⟩,
    ⟨0x2119, "p|q|r|r|r"⟩, ⟨0x2120, "sm|tel|tm"⟩, ⟨0x2124, "z"⟩, ⟨0x2128, "z"⟩, ⟨0x212C, "b|c"⟩,
    ⟨0x212F, "e|e|f"⟩, ⟨0x2133, "m|o|\u05D0|\u05D1|\u05D2|\u05D3|i"⟩, ⟨0x213B, "fax|π|γ|γ|π|∑"⟩,
    ⟨0x2145, "d|d|e|i|j"⟩,
    ⟨0x2150, "1⁄7|1⁄9|1⁄10|1⁄3|2⁄3|1⁄5|2⁄5|3⁄5|4⁄5|1⁄6|5⁄6|1⁄8|3⁄8|5⁄8|7⁄8|1⁄|i|ii|iii|iv|v|vi"⟩,
    ⟨0x2166, "vii|viii|ix|x|xi|xii|l|c|d|m|i|ii|iii|iv|v|vi|vii|viii|ix|x|xi|xii|l|c|d|m"⟩,
    ⟨0x2189, "0⁄3"⟩, ⟨0x222C, "∫∫|∫∫∫"⟩, ⟨0x222F, "∮∮|∮∮∮"⟩, ⟨0x2329, "\u3008|\u3009"⟩,
    ⟨0x2460, "1|2|3|4|5|6|7|8|9|10|11|12|13|14|15|16|17|18|19|20|(1)|(2)|(3)|(4)|(5)|(6)|(7)|(8)"⟩,
    ⟨0x247C, "(9)|(10)|(11)|(12)|(13)|(14)|(15)|(16)|(17)|(18)|(19)|(20)"⟩,
    ⟨0x249C, "(a)|(b)|(c)|(d)|(e)|(f)|(g)|(h)|(i)|(j)|(k)|(l)|(m)|(n)|(o)|(p)|(q)|(r)|(s)|(t)|(u)"⟩,
    ⟨0x24B1, "(v)|(w)|(x)|(y)|(z)|a|b|c|d|e|f|g|h|i|j|k|l|m|n|o|p|q|r|s|t|u|v|w|x|y|z|a|b|c|d|e|f"⟩,
    ⟨0x24D6, "g|h|i|j|k|l|m|n|o|p|q|r|s|t|u|v|w|x|y|z|0"⟩, ⟨0x2A0C, "∫∫∫∫"⟩, ⟨0x2A74, "::=|==|==="⟩,
    ⟨0x2ADC, "⫝\u0338"⟩, ⟨0x2C7C, "j|v"⟩, ⟨0x2D6F, "ⵡ"⟩, ⟨0x2E9F, "母"⟩, ⟨0x2EF3, "龟"⟩,
    ⟨0x2F00, "一|丨|丶|丿|乙|亅|二|亠|人|儿|入|八|冂|冖|冫|几|凵|刀|力|勹|匕|匚|匸|十|卜|卩|厂|厶|又|口|囗|土|士|夂|夊|夕|大|女|子|宀|寸|小"⟩,
    ⟨0x2F2A, "尢|尸|屮|山|巛|工|己|巾|干|幺|广|廴|廾|弋|弓|彐|彡|彳|心|戈|戶|手|支|攴|文|斗|斤|方|无|日|曰|月|木|欠|止|歹|殳|毋|比|毛|氏|气"⟩,
    ⟨0x2F54, "水|火|爪|父|爻|爿|片|牙|牛|犬|玄|玉|瓜|瓦|甘|生|用|田|疋|疒|癶|白|皮|皿|目|矛|矢|石|示|禸|禾|穴|立|竹|米|糸|缶|网|羊|羽|老|而"⟩,
    ⟨0x2F7E, "耒|耳|聿|肉|臣|自|至|臼|舌|舛|舟|艮|色|艸|虍|虫|血|行|衣|襾|見|角|言|谷|豆|豕|豸|貝|赤|走|足|身|車|辛|辰|辵|邑|酉|釆|里|金|長"⟩,
    ⟨0x2FA8, "門|阜|隶|隹|雨|靑|非|面|革|韋|韭|音|頁|風|飛|食|首|香|馬|骨|高|髟|鬥|鬯|鬲|鬼|魚|鳥|鹵|鹿|麥|麻|黃|黍|黑|黹|黽|鼎|鼓|鼠|鼻|齊"⟩,
    ⟨0x2FD2, "齒|龍|龜|龠"⟩, ⟨0x3000, "\x20"⟩, ⟨0x3002, "."⟩, ⟨0x3036, "〒"⟩, ⟨0x3038, "十|卄|卅"⟩,
    ⟨0x309B, "\x20\u3099|\x20\u309A"⟩, ⟨0x309F, "より"⟩, ⟨0x30FF, "コト"⟩,
    ⟨0x3131, "\u1100|\u1101|\u11AA|\u1102|\u11AC|\u11AD|\u1103|\u1104|\u1105|\u11B0|\u11B1|\u11B2"⟩,
    ⟨0x313D, "\u11B3|\u11B4|\u11B5|\u111A|\u1106|\u1107|\u1108|\u1121|\u1109|\u110A|\u110B|\u110C"⟩,
    ⟨0x3149, "\u110D|\u110E|\u110F|\u1110|\u1111|\u1112|\u1161|\u1162|\u1163|\u1164|\u1165|\u1166"⟩,
    ⟨0x3155, "\u1167|\u1168|\u1169|\u116A|\u116B|\u116C|\u116D|\u116E|\u116F|\u1170|\u1171|\u1172"⟩,
    ⟨0x3161, "\u1173|\u1174|\u1175"⟩,
    ⟨0x3165, "\u1114|\u1115|\u11C7|\u11C8|\u11CC|\u11CE|\u11D3|\u11D7|\u11D9|\u111C|\u11DD|\u11DF"⟩,
    ⟨0x3171, "\u111D|\u111E|\u1120|\u1122|\u1123|\u1127|\u1129|\u112B|\u112C|\u112D|\u112E|\u112F"⟩,
    ⟨0x317D, "\u1132|\u1136|\u1140|\u1147|\u114C|\u11F1|\u11F2|\u1157|\u1158|\u1159|\u1184|\u1185"⟩,
    ⟨0x3189, "\u1188|\u1191|\u1192|\u1194|\u119E|\u11A1"⟩, ⟨0x3192, "一|二|三|四|上|中|下|甲|乙|丙|丁|天|地|人"⟩,
    ⟨0x3200, "(\u1100)|(\u1102)|(\u1103)|(\u1105)|(\u1106)|(\u1107)|(\u1109)|(\u110B)|(\u110C)"⟩,
    ⟨0x3209, "(\u110E)|(\u110F)|(\u1110)|(\u1111)|(\u1112)|(가)|(나)|(다)|(라)|(마)|(바)|(사)|(아)|(자)"⟩,
    ⟨0x3217, "(차)|(카)|(타)|(파)|(하)|(주)|(오전)|(오후)"⟩,
    ⟨0x3220, "(一)|(二)|(三)|(四)|(五)|(六)|(七)|(八)|(九)|(十)|(月)|(火)|(水)|(木)|(金)|(土)|(日)|(株)|(有)|(社)|(名)"⟩,
    ⟨0x3235, "(特)|(財)|(祝)|(労)|(代)|(呼)|(学)|(監)|(企)|(資)|(協)|(祭)|(休)|(自)|(至)|問|幼|文|箏"⟩,
    ⟨0x3250, "pte|21|22|23|24|25|26|27|28|29|30|31|32|33|34|35|\u1100|\u1102|\u1103|\u1105|\u1106"⟩,
    ⟨0x3265, "\u1107|\u1109|\u110B|\u110C|\u110E|\u110F|\u1110|\u1111|\u1112|가|나|다|라|마|바|사|아|자|차"⟩,
    ⟨0x3278, "카|타|파|하|참고|주의|우"⟩,
    ⟨0x3280, "一|二|三|四|五|六|七|八|九|十|月|火|水|木|金|土|日|株|有|社|名|特|財|祝|労|秘|男|女|適|優|印|注|項|休|写|正|上|中|下|左|右|医"⟩,
    ⟨0x32AA, "宗|学|監|企|資|協|夜|36|37|38|39|40|41|42|43|44|45|46|47|48|49|50|1月|2月|3月|4月|5月|6月|7月|8月"⟩,
    ⟨0x32C8, "9月|10月|11月|12月|hg|erg|ev|ltd|ア|イ|ウ|エ|オ|カ|キ|ク|ケ|コ|サ|シ|ス|セ|ソ|タ|チ|ツ|テ|ト|ナ|ニ|ヌ|ネ|ノ|ハ|ヒ"⟩,
    ⟨0x32EB, "フ|ヘ|ホ|マ|ミ|ム|メ|モ|ヤ|ユ|ヨ|ラ|リ|ル|レ|ロ|ワ|ヰ|ヱ|ヲ|令和|アパ\u30FCト|アルファ|アンペア|ア\u30FCル|イニング|インチ"⟩,
    ⟨0x3306, "ウォン|エスク\u30FCド|エ\u30FCカ\u30FC|オンス|オ\u30FCム|カイリ|カラット|カロリ\u30FC|ガロン|ガンマ|ギガ|ギニ\u30FC"⟩,
    ⟨0x3312, "キュリ\u30FC|ギルダ\u30FC|キロ|キログラム|キロメ\u30FCトル|キロワット|グラム|グラムトン|クルゼイロ|クロ\u30FCネ|ケ\u30FCス"⟩,
    ⟨0x331D, "コルナ|コ\u30FCポ|サイクル|サンチ\u30FCム|シリング|センチ|セント|ダ\u30FCス|デシ|ドル|トン|ナノ|ノット|ハイツ|パ\u30FCセント"⟩,
    ⟨0x332C, "パ\u30FCツ|バ\u30FCレル|ピアストル|ピクル|ピコ|ビル|ファラッド|フィ\u30FCト|ブッシェル|フラン|ヘクタ\u30FCル|ペソ|ペニヒ|ヘルツ"⟩,
    ⟨0x333A, "ペンス|ペ\u30FCジ|ベ\u30FCタ|ポイント|ボルト|ホン|ポンド|ホ\u30FCル|ホ\u30FCン|マイクロ|マイル|マッハ|マルク|マンション|ミクロン"⟩,
    ⟨0x3349, "ミリ|ミリバ\u30FCル|メガ|メガトン|メ\u30FCトル|ヤ\u30FCド|ヤ\u30FCル|ユアン|リットル|リラ|ルピ\u30FC|ル\u30FCブル|レム"⟩,
    ⟨0x3356, "レントゲン|ワット|0点|1点|2点|3点|4点|5点|6点|7点|8点|9点|10点|11点|12点|13点|14点|15点|16点|17点|18点|19点|20点"⟩,
    ⟨0x336D, "21点|22点|23点|24点|hpa|da|au|bar|ov|pc|dm|dm2|dm3|iu|平成|昭和|大正|明治|株式会社|pa|na|μa|ma|ka"⟩,
    ⟨0x3385, "kb|mb|gb|cal|kcal|pf|nf|μf|μg|mg|kg|hz|khz|mhz|ghz|thz|μl|ml|dl|kl|fm|nm|μm|mm|cm"⟩,
    ⟨0x339E, "km|mm2|cm2|m2|km2|mm3|cm3|m3|km3|m∕s|m∕s2|pa|kpa|mpa|gpa|rad|rad∕s|rad∕s2|ps|ns|μs"⟩,
    ⟨0x33B3, "ms|pv|nv|μv|mv|kv|mv|pw|nw|μw|mw|kw|mw|kω|mω"⟩, ⟨0x33C3, "bq|cc|cd|c∕kg"⟩,
    ⟨0x33C8, "db|gy|ha|hp|in|kk|km|kt|lm|ln|log|lx|mb|mil|mol|ph"⟩,
    ⟨0x33D9, "ppm|pr|sr|sv|wb|v∕m|a∕m|1日|2日|3日|4日|5日|6日|7日|8日|9日|10日|11日|12日|13日|14日|15日|16日|17日"⟩,
    ⟨0x33F1, "18日|19日|20日|21日|22日|23日|24日|25日|26日|27日|28日|29日|30日|31日|gal"⟩, ⟨0xA69C, "ъ|ь"⟩,
    ⟨0xA770, "ꝯ"⟩, ⟨0xA7F1, "s|c|f|q"⟩, ⟨0xA7F8, "ħ|œ"⟩, ⟨0xAB5C, "ꜧ|ꬷ|ɫ|ꭒ"⟩, ⟨0xAB69, "ʍ"⟩,
    ⟨0xAB70, "Ꭰ|Ꭱ|Ꭲ|Ꭳ|Ꭴ|Ꭵ|Ꭶ|Ꭷ|Ꭸ|Ꭹ|Ꭺ|Ꭻ|Ꭼ|Ꭽ|Ꭾ|Ꭿ|Ꮀ|Ꮁ|Ꮂ|Ꮃ|Ꮄ|Ꮅ|Ꮆ|Ꮇ|Ꮈ|Ꮉ|Ꮊ|Ꮋ|Ꮌ|Ꮍ|Ꮎ|Ꮏ|Ꮐ|Ꮑ|Ꮒ|Ꮓ|Ꮔ|Ꮕ|Ꮖ|Ꮗ|Ꮘ|Ꮙ"⟩,
    ⟨0xAB9A, "Ꮚ|Ꮛ|Ꮜ|Ꮝ|Ꮞ|Ꮟ|Ꮠ|Ꮡ|Ꮢ|Ꮣ|Ꮤ|Ꮥ|Ꮦ|Ꮧ|Ꮨ|Ꮩ|Ꮪ|Ꮫ|Ꮬ|Ꮭ|Ꮮ|Ꮯ|Ꮰ|Ꮱ|Ꮲ|Ꮳ|Ꮴ|Ꮵ|Ꮶ|Ꮷ|Ꮸ|Ꮹ|Ꮺ|Ꮻ|Ꮼ|Ꮽ|Ꮾ|Ꮿ"⟩,
    ⟨0xF900, "豈|更|車|賈|滑|串|句|龜|龜|契|金|喇|奈|懶|癩|羅|蘿|螺|裸|邏|樂|洛|烙|珞|落|酪|駱|亂|卵|欄|爛|蘭|鸞|嵐|濫|藍|襤|拉|臘|蠟|廊|朗"⟩,
    ⟨0xF92A, "浪|狼|郎|來|冷|勞|擄|櫓|爐|盧|老|蘆|虜|路|露|魯|鷺|碌|祿|綠|菉|錄|鹿|論|壟|弄|籠|聾|牢|磊|賂|雷|壘|屢|樓|淚|漏|累|縷|陋|勒|肋"⟩,
    ⟨0xF954, "凜|凌|稜|綾|菱|陵|讀|拏|樂|諾|丹|寧|怒|率|異|北|磻|便|復|不|泌|數|索|參|塞|省|葉|說|殺|辰|沈|拾|若|掠|略|亮|兩|凉|梁|糧|良|諒"⟩,
    ⟨0xF97E, "量|勵|呂|女|廬|旅|濾|礪|閭|驪|麗|黎|力|曆|歷|轢|年|憐|戀|撚|漣|煉|璉|秊|練|聯|輦|蓮|連|鍊|列|劣|咽|烈|裂|說|廉|念|捻|殮|簾|獵"⟩,
    ⟨0xF9A8, "令|囹|寧|嶺|怜|玲|瑩|羚|聆|鈴|零|靈|領|例|禮|醴|隸|惡|了|僚|寮|尿|料|樂|燎|療|蓼|遼|龍|暈|阮|劉|杻|柳|流|溜|琉|留|硫|紐|類|六"⟩,
    ⟨0xF9D2, "戮|陸|倫|崙|淪|輪|律|慄|栗|率|隆|利|吏|履|易|李|梨|泥|理|痢|罹|裏|裡|里|離|匿|溺|吝|燐|璘|藺|隣|鱗|麟|林|淋|臨|立|笠|粒|狀|炙"⟩,
    ⟨0xF9FC, "識|什|茶|刺|切|度|拓|糖|宅|洞|暴|輻|行|降|見|廓|兀|嗀"⟩, ⟨0xFA10, "塚"⟩, ⟨0xFA12, "晴"⟩,
    ⟨0xFA15, "凞|猪|益|礼|神|祥|福|靖|精|羽"⟩, ⟨0xFA20, "蘒"⟩, ⟨0xFA22, "諸"⟩, ⟨0xFA25, "逸|都"⟩,
    ⟨0xFA2A, "飯|飼|館|鶴|郞|隷|侮|僧|免|勉|勤|卑|喝|嘆|器|塀|墨|層|屮|悔|慨|憎|懲|敏|既|暑|梅|海|渚|漢|煮|爫|琢|碑|社|祉|祈|祐|祖|祝|禍|禎"⟩,
    ⟨0xFA54, "穀|突|節|練|縉|繁|署|者|臭|艹|艹|著|褐|視|謁|謹|賓|贈|辶|逸|難|響|頻|恵|𤋮|舘"⟩,
    ⟨0xFA70, "並|况|全|侀|充|冀|勇|勺|喝|啕|喙|嗢|塚|墳|奄|奔|婢|嬨|廒|廙|彩|徭|惘|慎|愈|憎|慠|懲|戴|揄|搜|摒|敖|晴|朗|望|杖|歹|殺|流|滛|滋"⟩,
    ⟨0xFA9A, "漢|瀞|煮|瞧|爵|犯|猪|瑱|甆|画|瘝|瘟|益|盛|直|睊|着|磌|窱|節|类|絛|練|缾|者|荒|華|蝹|襁|覆|視|調|諸|請|謁|諾|諭|謹|變|贈|輸|遲"⟩,
    ⟨0xFAC4, "醙|鉶|陼|難|靖|韛|響|頋|頻|鬒|龜|𢡊|𢡄|𣏕|㮝|䀘|䀹|𥉉|𥳐|𧻓|齃|龎"⟩, ⟨0xFB00, "ff|fi|fl|ffi|ffl|st|st"⟩,
    ⟨0xFB13, "մն|մե|մի|վն|մխ"⟩, ⟨0xFB1D, "\u05D9\u05B4"⟩,
    ⟨0xFB1F, "\u05F2\u05B7|\u05E2|\u05D0|\u05D3|\u05D4|\u05DB|\u05DC|\u05DD|\u05E8|\u05EA|+"⟩,
    ⟨0xFB2A, "\u05E9\u05C1|\u05E9\u05C2|\u05E9\u05BC\u05C1|\u05E9\u05BC\u05C2|\u05D0\u05B7"⟩,
    ⟨0xFB2F, "\u05D0\u05B8|\u05D0\u05BC|\u05D1\u05BC|\u05D2\u05BC|\u05D3\u05BC|\u05D4\u05BC"⟩,
    ⟨0xFB35, "\u05D5\u05BC|\u05D6\u05BC"⟩,
    ⟨0xFB38, "\u05D8\u05BC|\u05D9\u05BC|\u05DA\u05BC|\u05DB\u05BC|\u05DC\u05BC"⟩,
    ⟨0xFB3E, "\u05DE\u05BC"⟩, ⟨0xFB40, "\u05E0\u05BC|\u05E1\u05BC"⟩,
    ⟨0xFB43, "\u05E3\u05BC|\u05E4\u05BC"⟩,
    ⟨0xFB46, "\u05E6\u05BC|\u05E7\u05BC|\u05E8\u05BC|\u05E9\u05BC|\u05EA\u05BC|\u05D5\u05B9"⟩,
    ⟨0xFB4C, "\u05D1\u05BF|\u05DB\u05BF|\u05E4\u05BF|\u05D0\u05DC|\u0671|\u0671|\u067B|\u067B"⟩,
    ⟨0xFB54, "\u067B|\u067B|\u067E|\u067E|\u067E|\u067E|\u0680|\u0680|\u0680|\u0680|\u067A|\u067A"⟩,
    ⟨0xFB60, "\u067A|\u067A|\u067F|\u067F|\u067F|\u067F|\u0679|\u0679|\u0679|\u0679|\u06A4|\u06A4"⟩,
    ⟨0xFB6C, "\u06A4|\u06A4|\u06A6|\u06A6|\u06A6|\u06A6|\u0684|\u0684|\u0684|\u0684|\u0683|\u0683"⟩,
    ⟨0xFB78, "\u0683|\u0683|\u0686|\u0686|\u0686|\u0686|\u0687|\u0687|\u0687|\u0687|\u068D|\u068D"⟩,
    ⟨0xFB84, "\u068C|\u068C|\u068E|\u068E|\u0688|\u0688|\u0698|\u0698|\u0691|\u0691|\u06A9|\u06A9"⟩,
    ⟨0xFB90, "\u06A9|\u06A9|\u06AF|\u06AF|\u06AF|\u06AF|\u06B3|\u06B3|\u06B3|\u06B3|\u06B1|\u06B1"⟩,
    ⟨0xFB9C, "\u06B1|\u06B1|\u06BA|\u06BA|\u06BB|\u06BB|\u06BB|\u06BB|\u06C0|\u06C0|\u06C1|\u06C1"⟩,
    ⟨0xFBA8, "\u06C1|\u06C1|\u06BE|\u06BE|\u06BE|\u06BE|\u06D2|\u06D2|\u06D3|\u06D3"⟩,
    ⟨0xFBD3, "\u06AD|\u06AD|\u06AD|\u06AD|\u06C7|\u06C7|\u06C6|\u06C6|\u06C8|\u06C8|\u06C7\u0674"⟩,
    ⟨0xFBDE, "\u06CB|\u06CB|\u06C5|\u06C5|\u06C9|\u06C9|\u06D0|\u06D0|\u06D0|\u06D0|\u0649|\u0649"⟩,
    ⟨0xFBEA, "\u0626\u0627|\u0626\u0627|\u0626\u06D5|\u0626\u06D5|\u0626\u0648|\u0626\u0648"⟩,
    ⟨0xFBF0, "\u0626\u06C7|\u0626\u06C7|\u0626\u06C6|\u0626\u06C6|\u0626\u06C8|\u0626\u06C8"⟩,
    ⟨0xFBF6, "\u0626\u06D0|\u0626\u06D0|\u0626\u06D0|\u0626\u0649|\u0626\u0649|\u0626\u0649"⟩,
    ⟨0xFBFC, "\u06CC|\u06CC|\u06CC|\u06CC|\u0626\u062C|\u0626\u062D|\u0626\u0645|\u0626\u0649"⟩,
    ⟨0xFC04, "\u0626\u064A|\u0628\u062C|\u0628\u062D|\u0628\u062E|\u0628\u0645|\u0628\u0649"⟩,
    ⟨0xFC0A, "\u0628\u064A|\u062A\u062C|\u062A\u062D|\u062A\u062E|\u062A\u0645|\u062A\u0649"⟩,
    ⟨0xFC10, "\u062A\u064A|\u062B\u062C|\u062B\u0645|\u062B\u0649|\u062B\u064A|\u062C\u062D"⟩,
    ⟨0xFC16, "\u062C\u0645|\u062D\u062C|\u062D\u0645|\u062E\u062C|\u062E\u062D|\u062E\u0645"⟩,
    ⟨0xFC1C, "\u0633\u062C|\u0633\u062D|\u0633\u062E|\u0633\u0645|\u0635\u062D|\u0635\u0645"⟩,
    ⟨0xFC22, "\u0636\u062C|\u0636\u062D|\u0636\u062E|\u0636\u0645|\u0637\u062D|\u0637\u0645"⟩,
    ⟨0xFC28, "\u0638\u0645|\u0639\u062C|\u0639\u0645|\u063A\u062C|\u063A\u0645|\u0641\u062C"⟩,
    ⟨0xFC2E, "\u0641\u062D|\u0641\u062E|\u0641\u0645|\u0641\u0649|\u0641\u064A|\u0642\u062D"⟩,
    ⟨0xFC34, "\u0642\u0645|\u0642\u0649|\u0642\u064A|\u0643\u0627|\u0643\u062C|\u0643\u062D"⟩,
    ⟨0xFC3A, "\u0643\u062E|\u0643\u0644|\u0643\u0645|\u0643\u0649|\u0643\u064A|\u0644\u062C"⟩,
    ⟨0xFC40, "\u0644\u062D|\u0644\u062E|\u0644\u0645|\u0644\u0649|\u0644\u064A|\u0645\u062C"⟩,
    ⟨0xFC46, "\u0645\u062D|\u0645\u062E|\u0645\u0645|\u0645\u0649|\u0645\u064A|\u0646\u062C"⟩,
    ⟨0xFC4C, "\u0646\u062D|\u0646\u062E|\u0646\u0645|\u0646\u0649|\u0646\u064A|\u0647\u062C"⟩,
    ⟨0xFC52, "\u0647\u0645|\u0647\u0649|\u0647\u064A|\u064A\u062C|\u064A\u062D|\u064A\u062E"⟩,
    ⟨0xFC58, "\u064A\u0645|\u064A\u0649|\u064A\u064A|\u0630\u0670|\u0631\u0670|\u0649\u0670"⟩,
    ⟨0xFC5E, "\x20\u064C\u0651|\x20\u064D\u0651|\x20\u064E\u0651|\x20\u064F\u0651"⟩,
    ⟨0xFC62, "\x20\u0650\u0651|\x20\u0651\u0670|\u0626\u0631|\u0626\u0632|\u0626\u0645"⟩,
    ⟨0xFC67, "\u0626\u0646|\u0626\u0649|\u0626\u064A|\u0628\u0631|\u0628\u0632|\u0628\u0645"⟩,
    ⟨0xFC6D, "\u0628\u0646|\u0628\u0649|\u0628\u064A|\u062A\u0631|\u062A\u0632|\u062A\u0645"⟩,
    ⟨0xFC73, "\u062A\u0646|\u062A\u0649|\u062A\u064A|\u062B\u0631|\u062B\u0632|\u062B\u0645"⟩,
    ⟨0xFC79, "\u062B\u0646|\u062B\u0649|\u062B\u064A|\u0641\u0649|\u0641\u064A|\u0642\u0649"⟩,
    ⟨0xFC7F, "\u0642\u064A|\u0643\u0627|\u0643\u0644|\u0643\u0645|\u0643\u0649|\u0643\u064A"⟩,
    ⟨0xFC85, "\u0644\u0645|\u0644\u0649|\u0644\u064A|\u0645\u0627|\u0645\u0645|\u0646\u0631"⟩,
    ⟨0xFC8B, "\u0646\u0632|\u0646\u0645|\u0646\u0646|\u0646\u0649|\u0646\u064A|\u0649\u0670"⟩,
    ⟨0xFC91, "\u064A\u0631|\u064A\u0632|\u064A\u0645|\u064A\u0646|\u064A\u0649|\u064A\u064A"⟩,
    ⟨0xFC97, "\u0626\u062C|\u0626\u062D|\u0626\u062E|\u0626\u0645|\u0626\u0647|\u0628\u062C"⟩,
    ⟨0xFC9D, "\u0628\u062D|\u0628\u062E|\u0628\u0645|\u0628\u0647|\u062A\u062C|\u062A\u062D"⟩,
    ⟨0xFCA3, "\u062A\u062E|\u062A\u0645|\u062A\u0647|\u062B\u0645|\u062C\u062D|\u062C\u0645"⟩,
    ⟨0xFCA9, "\u062D\u062C|\u062D\u0645|\u062E\u062C|\u062E\u0645|\u0633\u062C|\u0633\u062D"⟩,
    ⟨0xFCAF, "\u0633\u062E|\u0633\u0645|\u0635\u062D|\u0635\u062E|\u0635\u0645|\u0636\u062C"⟩,
    ⟨0xFCB5, "\u0636\u062D|\u0636\u062E|\u0636\u0645|\u0637\u062D|\u0638\u0645|\u0639\u062C"⟩,
    ⟨0xFCBB, "\u0639\u0645|\u063A\u062C|\u063A\u0645|\u0641\u062C|\u0641\u062D|\u0641\u062E"⟩,
    ⟨0xFCC1, "\u0641\u0645|\u0642\u062D|\u0642\u0645|\u0643\u062C|\u0643\u062D|\u0643\u062E"⟩,
    ⟨0xFCC7, "\u0643\u0644|\u0643\u0645|\u0644\u062C|\u0644\u062D|\u0644\u062E|\u0644\u0645"⟩,
    ⟨0xFCCD, "\u0644\u0647|\u0645\u062C|\u0645\u062D|\u0645\u062E|\u0645\u0645|\u0646\u062C"⟩,
    ⟨0xFCD3, "\u0646\u062D|\u0646\u062E|\u0646\u0645|\u0646\u0647|\u0647\u062C|\u0647\u0645"⟩,
    ⟨0xFCD9, "\u0647\u0670|\u064A\u062C|\u064A\u062D|\u064A\u062E|\u064A\u0645|\u064A\u0647"⟩,
    ⟨0xFCDF, "\u0626\u0645|\u0626\u0647|\u0628\u0645|\u0628\u0647|\u062A\u0645|\u062A\u0647"⟩,
    ⟨0xFCE5, "\u062B\u0645|\u062B\u0647|\u0633\u0645|\u0633\u0647|\u0634\u0645|\u0634\u0647"⟩,
    ⟨0xFCEB, "\u0643\u0644|\u0643\u0645|\u0644\u0645|\u0646\u0645|\u0646\u0647|\u064A\u0645"⟩,
    ⟨0xFCF1, "\u064A\u0647|\u0640\u064E\u0651|\u0640\u064F\u0651|\u0640\u0650\u0651|\u0637\u0649"⟩,
    ⟨0xFCF6, "\u0637\u064A|\u0639\u0649|\u0639\u064A|\u063A\u0649|\u063A\u064A|\u0633\u0649"⟩,
    ⟨0xFCFC, "\u0633\u064A|\u0634\u0649|\u0634\u064A|\u062D\u0649|\u062D\u064A|\u062C\u0649"⟩,
    ⟨0xFD02, "\u062C\u064A|\u062E\u0649|\u062E\u064A|\u0635\u0649|\u0635\u064A|\u0636\u0649"⟩,
    ⟨0xFD08, "\u0636\u064A|\u0634\u062C|\u0634\u062D|\u0634\u062E|\u0634\u0645|\u0634\u0631"⟩,
    ⟨0xFD0E, "\u0633\u0631|\u0635\u0631|\u0636\u0631|\u0637\u0649|\u0637\u064A|\u0639\u0649"⟩,
    ⟨0xFD14, "\u0639\u064A|\u063A\u0649|\u063A\u064A|\u0633\u0649|\u0633\u064A|\u0634\u0649"⟩,
    ⟨0xFD1A, "\u0634\u064A|\u062D\u0649|\u062D\u064A|\u062C\u0649|\u062C\u064A|\u062E\u0649"⟩,
    ⟨0xFD20, "\u062E\u064A|\u0635\u0649|\u0635\u064A|\u0636\u0649|\u0636\u064A|\u0634\u062C"⟩,
    ⟨0xFD26, "\u0634\u062D|\u0634\u062E|\u0634\u0645|\u0634\u0631|\u0633\u0631|\u0635\u0631"⟩,
    ⟨0xFD2C, "\u0636\u0631|\u0634\u062C|\u0634\u062D|\u0634\u062E|\u0634\u0645|\u0633\u0647"⟩,
    ⟨0xFD32, "\u0634\u0647|\u0637\u0645|\u0633\u062C|\u0633\u062D|\u0633\u062E|\u0634\u062C"⟩,
    ⟨0xFD38, "\u0634\u062D|\u0634\u062E|\u0637\u0645|\u0638\u0645|\u0627\u064B|\u0627\u064B"⟩,
    ⟨0xFD50, "\u062A\u062C\u0645|\u062A\u062D\u062C|\u062A\u062D\u062C|\u062A\u062D\u0645"⟩,
    ⟨0xFD54, "\u062A\u062E\u0645|\u062A\u0645\u062C|\u062A\u0645\u062D|\u062A\u0645\u062E"⟩,
    ⟨0xFD58, "\u062C\u0645\u062D|\u062C\u0645\u062D|\u062D\u0645\u064A|\u062D\u0645\u0649"⟩,
    ⟨0xFD5C, "\u0633\u062D\u062C|\u0633\u062C\u062D|\u0633\u062C\u0649|\u0633\u0645\u062D"⟩,
    ⟨0xFD60, "\u0633\u0645\u062D|\u0633\u0645\u062C|\u0633\u0645\u0645|\u0633\u0645\u0645"⟩,
    ⟨0xFD64, "\u0635\u062D\u062D|\u0635\u062D\u062D|\u0635\u0645\u0645|\u0634\u062D\u0645"⟩,
    ⟨0xFD68, "\u0634\u062D\u0645|\u0634\u062C\u064A|\u0634\u0645\u062E|\u0634\u0645\u062E"⟩,
    ⟨0xFD6C, "\u0634\u0645\u0645|\u0634\u0645\u0645|\u0636\u062D\u0649|\u0636\u062E\u0645"⟩,
    ⟨0xFD70, "\u0636\u062E\u0645|\u0637\u0645\u062D|\u0637\u0645\u062D|\u0637\u0645\u0645"⟩,
    ⟨0xFD74, "\u0637\u0645\u064A|\u0639\u062C\u0645|\u0639\u0645\u0645|\u0639\u0645\u0645"⟩,
    ⟨0xFD78, "\u0639\u0645\u0649|\u063A\u0645\u0645|\u063A\u0645\u064A|\u063A\u0645\u0649"⟩,
    ⟨0xFD7C, "\u0641\u062E\u0645|\u0641\u062E\u0645|\u0642\u0645\u062D|\u0642\u0645\u0645"⟩,
    ⟨0xFD80, "\u0644\u062D\u0645|\u0644\u062D\u064A|\u0644\u062D\u0649|\u0644\u062C\u062C"⟩,
    ⟨0xFD84, "\u0644\u062C\u062C|\u0644\u062E\u0645|\u0644\u062E\u0645|\u0644\u0645\u062D"⟩,
    ⟨0xFD88, "\u0644\u0645\u062D|\u0645\u062D\u062C|\u0645\u062D\u0645|\u0645\u062D\u064A"⟩,
    ⟨0xFD8C, "\u0645\u062C\u062D|\u0645\u062C\u0645|\u0645\u062E\u062C|\u0645\u062E\u0645"⟩,
    ⟨0xFD92, "\u0645\u062C\u062E|\u0647\u0645\u062C|\u0647\u0645\u0645|\u0646\u062D\u0645"⟩,
    ⟨0xFD96, "\u0646\u062D\u0649|\u0646\u062C\u0645|\u0646\u062C\u0645|\u0646\u062C\u0649"⟩,
    ⟨0xFD9A, "\u0646\u0645\u064A|\u0646\u0645\u0649|\u064A\u0645\u0645|\u064A\u0645\u0645"⟩,
    ⟨0xFD9E, "\u0628\u062E\u064A|\u062A\u062C\u064A|\u062A\u062C\u0649|\u062A\u062E\u064A"⟩,
    ⟨0xFDA2, "\u062A\u062E\u0649|\u062A\u0645\u064A|\u062A\u0645\u0649|\u062C\u0645\u064A"⟩,
    ⟨0xFDA6, "\u062C\u062D\u0649|\u062C\u0645\u0649|\u0633\u062E\u0649|\u0635\u062D\u064A"⟩,
    ⟨0xFDAA, "\u0634\u062D\u064A|\u0636\u062D\u064A|\u0644\u062C\u064A|\u0644\u0645\u064A"⟩,
    ⟨0xFDAE, "\u064A\u062D\u064A|\u064A\u062C\u064A|\u064A\u0645\u064A|\u0645\u0645\u064A"⟩,
    ⟨0xFDB2, "\u0642\u0645\u064A|\u0646\u062D\u064A|\u0642\u0645\u062D|\u0644\u062D\u0645"⟩,
    ⟨0xFDB6, "\u0639\u0645\u064A|\u0643\u0645\u064A|\u0646\u062C\u062D|\u0645\u062E\u064A"⟩,
    ⟨0xFDBA, "\u0644\u062C\u0645|\u0643\u0645\u0645|\u0644\u062C\u0645|\u0646\u062C\u062D"⟩,
    ⟨0xFDBE, "\u062C\u062D\u064A|\u062D\u062C\u064A|\u0645\u062C\u064A|\u0641\u0645\u064A"⟩,
    ⟨0xFDC2, "\u0628\u062D\u064A|\u0643\u0645\u0645|\u0639\u062C\u0645|\u0635\u0645\u0645"⟩,
    ⟨0xFDC6, "\u0633\u062E\u064A|\u0646\u062C\u064A"⟩,
    ⟨0xFDF0, "\u0635\u0644\u06D2|\u0642\u0644\u06D2|\u0627\u0644\u0644\u0647"⟩,
    ⟨0xFDF3, "\u0627\u0643\u0628\u0631|\u0645\u062D\u0645\u062F|\u0635\u0644\u0639\u0645"⟩,
    ⟨0xFDF6, "\u0631\u0633\u0648\u0644|\u0639\u0644\u064A\u0647|\u0648\u0633\u0644\u0645"⟩,
    ⟨0xFDF9, "\u0635\u0644\u0649"⟩, ⟨0xFDFA, "صلى الله عليه وسلم"⟩,
    ⟨0xFDFB, "\u062C\u0644\x20\u062C\u0644\u0627\u0644\u0647|\u0631\u06CC\u0627\u0644"⟩,
    ⟨0xFE10, ",|\u3001"⟩, ⟨0xFE13, ":|;|!|?|\u3016|\u3017"⟩,
    ⟨0xFE31, "\u2014|\u2013|_|_|(|)|\x7b|\x7d|\u3014|\u3015|\u3010|\u3011|\u300A|\u300B|\u3008"⟩,
    ⟨0xFE40, "\u3009|\u300C|\u300D|\u300E|\u300F"⟩,
    ⟨0xFE47, "[|]|\x20\u0305|\x20\u0305|\x20\u0305|\x20\u0305|_|_|_|,|\u3001"⟩,
    ⟨0xFE54, ";|:|?|!|\u2014|(|)|\x7b|\x7d|\u3014|\u3015|#|&|*|+|-|<|>|="⟩, ⟨0xFE68, "\x5c|$|%|@"⟩,
    ⟨0xFE70, "\x20\u064B|\u0640\u064B|\x20\u064C"⟩, ⟨0xFE74, "\x20\u064D"⟩,
    ⟨0xFE76, "\x20\u064E|\u0640\u064E|\x20\u064F|\u0640\u064F|\x20\u0650|\u0640\u0650|\x20\u0651"⟩,
    ⟨0xFE7D, "\u0640\u0651|\x20\u0652|\u0640\u0652|\u0621|\u0622|\u0622|\u0623|\u0623|\u0624"⟩,
    ⟨0xFE86, "\u0624|\u0625|\u0625|\u0626|\u0626|\u0626|\u0626|\u0627|\u0627|\u0628|\u0628|\u0628"⟩,
    ⟨0xFE92, "\u0628|\u0629|\u0629|\u062A|\u062A|\u062A|\u062A|\u062B|\u062B|\u062B|\u062B|\u062C"⟩,
    ⟨0xFE9E, "\u062C|\u062C|\u062C|\u062D|\u062D|\u062D|\u062D|\u062E|\u062E|\u062E|\u062E|\u062F"⟩,
    ⟨0xFEAA, "\u062F|\u0630|\u0630|\u0631|\u0631|\u0632|\u0632|\u0633|\u0633|\u0633|\u0633|\u0634"⟩,
    ⟨0xFEB6, "\u0634|\u0634|\u0634|\u0635|\u0635|\u0635|\u0635|\u0636|\u0636|\u0636|\u0636|\u0637"⟩,
    ⟨0xFEC2, "\u0637|\u0637|\u0637|\u0638|\u0638|\u0638|\u0638|\u0639|\u0639|\u0639|\u0639|\u063A"⟩,
    ⟨0xFECE, "\u063A|\u063A|\u063A|\u0641|\u0641|\u0641|\u0641|\u0642|\u0642|\u0642|\u0642|\u0643"⟩,
    ⟨0xFEDA, "\u0643|\u0643|\u0643|\u0644|\u0644|\u0644|\u0644|\u0645|\u0645|\u0645|\u0645|\u0646"⟩,
    ⟨0xFEE6, "\u0646|\u0646|\u0646|\u0647|\u0647|\u0647|\u0647|\u0648|\u0648|\u0649|\u0649|\u064A"⟩,
    ⟨0xFEF2, "\u064A|\u064A|\u064A|\u0644\u0622|\u0644\u0622|\u0644\u0623|\u0644\u0623"⟩,
    ⟨0xFEF9, "\u0644\u0625|\u0644\u0625|\u0644\u0627|\u0644\u0627"⟩,
    ⟨0xFF5F, "\u2985|\u2986|.|\u300C|\u300D|\u3001|\u30FB|ヲ|ァ|ィ|ゥ|ェ|ォ|ャ|ュ|ョ|ッ|\u30FC|ア|イ|ウ|エ|オ|カ"⟩,
    ⟨0xFF77, "キ|ク|ケ|コ|サ|シ|ス|セ|ソ|タ|チ|ツ|テ|ト|ナ|ニ|ヌ|ネ|ノ|ハ|ヒ|フ|ヘ|ホ|マ|ミ|ム|メ|モ|ヤ|ユ|ヨ|ラ|リ|ル|レ|ロ|ワ|ン"⟩,
    ⟨0xFF9E, "\u3099|\u309A"⟩,
    ⟨0xFFA1, "\u1100|\u1101|\u11AA|\u1102|\u11AC|\u11AD|\u1103|\u1104|\u1105|\u11B0|\u11B1|\u11B2"⟩,
    ⟨0xFFAD, "\u11B3|\u11B4|\u11B5|\u111A|\u1106|\u1107|\u1108|\u1121|\u1109|\u110A|\u110B|\u110C"⟩,
    ⟨0xFFB9, "\u110D|\u110E|\u110F|\u1110|\u1111|\u1112"⟩,
    ⟨0xFFC2, "\u1161|\u1162|\u1163|\u1164|\u1165|\u1166"⟩,
    ⟨0xFFCA, "\u1167|\u1168|\u1169|\u116A|\u116B|\u116C"⟩,
    ⟨0xFFD2, "\u116D|\u116E|\u116F|\u1170|\u1171|\u1172"⟩, ⟨0xFFDA, "\u1173|\u1174|\u1175"⟩,
    ⟨0xFFE0, "¢|£|¬|\x20\u0304|¦|¥|₩"⟩, ⟨0xFFE8, "│|←|↑|→|↓|■|○"⟩, ⟨0x10781, "\u02D0|\u02D1|æ|ʙ|ɓ"⟩,
    ⟨0x10787, "ʣ|ꭦ|ʥ|ʤ|ɖ|ɗ|ᶑ|ɘ|ɞ|ʩ|ɤ|ɢ|ɠ|ʛ|ħ|ʜ|ɧ|ʄ|ʪ|ʫ|ɬ|𝼄|ꞎ|ɮ|𝼅|ʎ|𝼆|ø|ɶ|ɷ|q|ɺ|𝼈|ɽ|ɾ|ʀ|ʨ|ʦ|ꭧ|ʧ|ʈ"⟩,
    ⟨0x107B0, "ⱱ"⟩, ⟨0x107B2, "ʏ|ʡ|ʢ|ʘ|ǀ|ǁ|ǂ|𝼊|𝼞"⟩,
    ⟨0x1CCD6, "a|b|c|d|e|f|g|h|i|j|k|l|m|n|o|p|q|r|s|t|u|v|w|x|y|z|0|1|2|3|4|5|6|7|8|9"⟩,
    ⟨0x1D15E, "𝅗𝅥|𝅘𝅥|𝅘𝅥𝅮|𝅘𝅥𝅯|𝅘𝅥𝅰|𝅘𝅥𝅱|𝅘𝅥𝅲"⟩, ⟨0x1D1BB, "𝆹𝅥|𝆺𝅥|𝆹𝅥𝅮|𝆺𝅥𝅮|𝆹𝅥𝅯|𝆺𝅥𝅯"⟩,
    ⟨0x1D400, "a|b|c|d|e|f|g|h|i|j|k|l|m|n|o|p|q|r|s|t|u|v|w|x|y|z|a|b|c|d|e|f|g|h|i|j|k|l|m|n|o"⟩,
    ⟨0x1D429, "p|q|r|s|t|u|v|w|x|y|z|a|b|c|d|e|f|g|h|i|j|k|l|m|n|o|p|q|r|s|t|u|v|w|x|y|z|a|b|c|d"⟩,
    ⟨0x1D452, "e|f|g"⟩,
    ⟨0x1D456, "i|j|k|l|m|n|o|p|q|r|s|t|u|v|w|x|y|z|a|b|c|d|e|f|g|h|i|j|k|l|m|n|o|p|q|r|s|t|u|v|w"⟩,
    ⟨0x1D47F, "x|y|z|a|b|c|d|e|f|g|h|i|j|k|l|m|n|o|p|q|r|s|t|u|v|w|x|y|z|a"⟩, ⟨0x1D49E, "c|d"⟩,
    ⟨0x1D4A2, "g"⟩, ⟨0x1D4A5, "j|k"⟩, ⟨0x1D4A9, "n|o|p|q"⟩, ⟨0x1D4AE, "s|t|u|v|w|x|y|z|a|b|c|d"⟩,
    ⟨0x1D4BB, "f"⟩, ⟨0x1D4BD, "h|i|j|k|l|m|n"⟩,
    ⟨0x1D4C5, "p|q|r|s|t|u|v|w|x|y|z|a|b|c|d|e|f|g|h|i|j|k|l|m|n|o|p|q|r|s|t|u|v|w|x|y|z|a|b|c|d"⟩,
    ⟨0x1D4EE, "e|f|g|h|i|j|k|l|m|n|o|p|q|r|s|t|u|v|w|x|y|z|a|b"⟩, ⟨0x1D507, "d|e|f|g"⟩,
    ⟨0x1D50D, "j|k|l|m|n|o|p|q"⟩, ⟨0x1D516, "s|t|u|v|w|x|y"⟩,
    ⟨0x1D51E, "a|b|c|d|e|f|g|h|i|j|k|l|m|n|o|p|q|r|s|t|u|v|w|x|y|z|a|b"⟩, ⟨0x1D53B, "d|e|f|g"⟩,
    ⟨0x1D540, "i|j|k|l|m"⟩, ⟨0x1D546, "o"⟩, ⟨0x1D54A, "s|t|u|v|w|x|y"⟩,
    ⟨0x1D552, "a|b|c|d|e|f|g|h|i|j|k|l|m|n|o|p|q|r|s|t|u|v|w|x|y|z|a|b|c|d|e|f|g|h|i|j|k|l|m|n|o"⟩,
    ⟨0x1D57B, "p|q|r|s|t|u|v|w|x|y|z|a|b|c|d|e|f|g|h|i|j|k|l|m|n|o|p|q|r|s|t|u|v|w|x|y|z|a|b|c|d"⟩,
    ⟨0x1D5A4, "e|f|g|h|i|j|k|l|m|n|o|p|q|r|s|t|u|v|w|x|y|z|a|b|c|d|e|f|g|h|i|j|k|l|m|n|o|p|q|r|s"⟩,
    ⟨0x1D5CD, "t|u|v|w|x|y|z|a|b|c|d|e|f|g|h|i|j|k|l|m|n|o|p|q|r|s|t|u|v|w|x|y|z|a|b|c|d|e|f|g|h"⟩,
    ⟨0x1D5F6, "i|j|k|l|m|n|o|p|q|r|s|t|u|v|w|x|y|z|a|b|c|d|e|f|g|h|i|j|k|l|m|n|o|p|q|r|s|t|u|v|w"⟩,
    ⟨0x1D61F, "x|y|z|a|b|c|d|e|f|g|h|i|j|k|l|m|n|o|p|q|r|s|t|u|v|w|x|y|z|a|b|c|d|e|f|g|h|i|j|k|l"⟩,
    ⟨0x1D648, "m|n|o|p|q|r|s|t|u|v|w|x|y|z|a|b|c|d|e|f|g|h|i|j|k|l|m|n|o|p|q|r|s|t|u|v|w|x|y|z|a"⟩,
    ⟨0x1D671, "b|c|d|e|f|g|h|i|j|k|l|m|n|o|p|q|r|s|t|u|v|w|x|y|z|a|b|c|d|e|f|g|h|i|j|k|l|m|n|o|p"⟩,
    ⟨0x1D69A, "q|r|s|t|u|v|w|x|y|z|ı|ȷ"⟩,
    ⟨0x1D6A8, "α|β|γ|δ|ε|ζ|η|θ|ι|κ|λ|μ|ν|ξ|ο|π|ρ|θ|σ|τ|υ|φ|χ|ψ|ω|∇|α|β|γ|δ|ε|ζ|η|θ|ι|κ|λ|μ|ν|ξ|ο"⟩,
    ⟨0x1D6D1, "π|ρ|σ|σ|τ|υ|φ|χ|ψ|ω|∂|ε|θ|κ|φ|ρ|π|α|β|γ|δ|ε|ζ|η|θ|ι|κ|λ|μ|ν|ξ|ο|π|ρ|θ|σ|τ|υ|φ|χ|ψ"⟩,
    ⟨0x1D6FA, "ω|∇|α|β|γ|δ|ε|ζ|η|θ|ι|κ|λ|μ|ν|ξ|ο|π|ρ|σ|σ|τ|υ|φ|χ|ψ|ω|∂|ε|θ|κ|φ|ρ|π|α|β|γ|δ|ε|ζ|η"⟩,
    ⟨0x1D723, "θ|ι|κ|λ|μ|ν|ξ|ο|π|ρ|θ|σ|τ|υ|φ|χ|ψ|ω|∇|α|β|γ|δ|ε|ζ|η|θ|ι|κ|λ|μ|ν|ξ|ο|π|ρ|σ|σ|τ|υ|φ"⟩,
    ⟨0x1D74C, "χ|ψ|ω|∂|ε|θ|κ|φ|ρ|π|α|β|γ|δ|ε|ζ|η|θ|ι|κ|λ|μ|ν|ξ|ο|π|ρ|θ|σ|τ|υ|φ|χ|ψ|ω|∇|α|β|γ|δ|ε"⟩,
    ⟨0x1D775, "ζ|η|θ|ι|κ|λ|μ|ν|ξ|ο|π|ρ|σ|σ|τ|υ|φ|χ|ψ|ω|∂|ε|θ|κ|φ|ρ|π|α|β|γ|δ|ε|ζ|η|θ|ι|κ|λ|μ|ν|ξ"⟩,
    ⟨0x1D79E, "ο|π|ρ|θ|σ|τ|υ|φ|χ|ψ|ω|∇|α|β|γ|δ|ε|ζ|η|θ|ι|κ|λ|μ|ν|ξ|ο|π|ρ|σ|σ|τ|υ|φ|χ|ψ|ω|∂|ε|θ|κ"⟩,
    ⟨0x1D7C7, "φ|ρ|π|ϝ|ϝ"⟩,
    ⟨0x1D7CE, "0|1|2|3|4|5|6|7|8|9|0|1|2|3|4|5|6|7|8|9|0|1|2|3|4|5|6|7|8|9|0|1|2|3|4|5|6|7|8|9|0"⟩,
    ⟨0x1D7F7, "1|2|3|4|5|6|7|8|9"⟩,
    ⟨0x1E030, "а|б|в|г|д|е|ж|з|и|к|л|м|о|п|р|с|т|у|ф|х|ц|ч|ш|ы|э|ю|ꚉ|ә|і|ј|ө|ү|ӏ|а|б|в|г|д|е|ж|з"⟩,
    ⟨0x1E059, "и|к|л|о|п|с|у|ф|х|ц|ч|ш|ъ|ы|ґ|і|ѕ|џ|ҫ|ꙑ|ұ"⟩,
    ⟨0x1EE00, "\u0627|\u0628|\u062C|\u062F"⟩,
    ⟨0x1EE05, "\u0648|\u0632|\u062D|\u0637|\u064A|\u0643|\u0644|\u0645|\u0646|\u0633|\u0639"⟩,
    ⟨0x1EE10, "\u0641|\u0635|\u0642|\u0631|\u0634|\u062A|\u062B|\u062E|\u0630|\u0636|\u0638"⟩,
    ⟨0x1EE1B, "\u063A|\u066E|\u06BA|\u06A1|\u066F"⟩, ⟨0x1EE21, "\u0628|\u062C"⟩,
    ⟨0x1EE24, "\u0647"⟩, ⟨0x1EE27, "\u062D"⟩,
    ⟨0x1EE29, "\u064A|\u0643|\u0644|\u0645|\u0646|\u0633|\u0639|\u0641|\u0635|\u0642"⟩,
    ⟨0x1EE34, "\u0634|\u062A|\u062B|\u062E"⟩, ⟨0x1EE39, "\u0636"⟩, ⟨0x1EE3B, "\u063A"⟩,
    ⟨0x1EE42, "\u062C"⟩, ⟨0x1EE47, "\u062D"⟩, ⟨0x1EE49, "\u064A"⟩, ⟨0x1EE4B, "\u0644"⟩,
    ⟨0x1EE4D, "\u0646|\u0633|\u0639"⟩, ⟨0x1EE51, "\u0635|\u0642"⟩, ⟨0x1EE54, "\u0634"⟩,
    ⟨0x1EE57, "\u062E"⟩, ⟨0x1EE59, "\u0636"⟩, ⟨0x1EE5B, "\u063A"⟩, ⟨0x1EE5D, "\u06BA"⟩,
    ⟨0x1EE5F, "\u066F"⟩, ⟨0x1EE61, "\u0628|\u062C"⟩, ⟨0x1EE64, "\u0647"⟩,
    ⟨0x1EE67, "\u062D|\u0637|\u064A|\u0643"⟩,
    ⟨0x1EE6C, "\u0645|\u0646|\u0633|\u0639|\u0641|\u0635|\u0642"⟩,
    ⟨0x1EE74, "\u0634|\u062A|\u062B|\u062E"⟩, ⟨0x1EE79, "\u0636|\u0638|\u063A|\u066E"⟩,
    ⟨0x1EE7E, "\u06A1"⟩,
    ⟨0x1EE80, "\u0627|\u0628|\u062C|\u062F|\u0647|\u0648|\u0632|\u062D|\u0637|\u064A"⟩,
    ⟨0x1EE8B, "\u0644|\u0645|\u0646|\u0633|\u0639|\u0641|\u0635|\u0642|\u0631|\u0634|\u062A"⟩,
    ⟨0x1EE96, "\u062B|\u062E|\u0630|\u0636|\u0638|\u063A"⟩, ⟨0x1EEA1, "\u0628|\u062C|\u062F"⟩,
    ⟨0x1EEA5, "\u0648|\u0632|\u062D|\u0637|\u064A"⟩,
    ⟨0x1EEAB, "\u0644|\u0645|\u0646|\u0633|\u0639|\u0641|\u0635|\u0642|\u0631|\u0634|\u062A"⟩,
    ⟨0x1EEB6, "\u062B|\u062E|\u0630|\u0636|\u0638|\u063A"⟩,
    ⟨0x1F101, "0,|1,|2,|3,|4,|5,|6,|7,|8,|9,"⟩,
    ⟨0x1F110, "(a)|(b)|(c)|(d)|(e)|(f)|(g)|(h)|(i)|(j)|(k)|(l)|(m)|(n)|(o)|(p)|(q)|(r)|(s)|(t)"⟩,
    ⟨0x1F124, "(u)|(v)|(w)|(x)|(y)|(z)|\u3014s\u3015|c|r|cd|wz"⟩,
    ⟨0x1F130, "a|b|c|d|e|f|g|h|i|j|k|l|m|n|o|p|q|r|s|t|u|v|w|x|y|z|hv|mv|sd|ss|ppv|wc"⟩,
    ⟨0x1F16A, "mc|md|mr"⟩, ⟨0x1F190, "dj"⟩, ⟨0x1F200, "ほか|ココ|サ"⟩,
    ⟨0x1F210, "手|字|双|デ|二|多|解|天|交|映|無|料|前|後|再|新|初|終|生|販|声|吹|演|投|捕|一|三|遊|左|中|右|指|走|打|禁|空|合|満|有|月|申"⟩,
    ⟨0x1F239, "割|営|配"⟩,
    ⟨0x1F240, "\u3014本\u3015|\u3014三\u3015|\u3014二\u3015|\u3014安\u3015|\u3014点\u3015"⟩,
    ⟨0x1F245, "\u3014打\u3015|\u3014盗\u3015|\u3014勝\u3015|\u3014敗\u3015"⟩, ⟨0x1F250, "得|可"⟩,
    ⟨0x1FBF0, "0|1|2|3|4|5|6|7|8|9"⟩,
    ⟨0x2F800, "丽|丸|乁|𠄢|你|侮|侻|倂|偺|備|僧|像|㒞|𠘺|免|兔|兤|具|𠔜|㒹|內|再|𠕋|冗|冤|仌|冬|况|𩇟|凵|刃|㓟|刻|剆|割|剷|㔕|勇|勉|勤|勺"⟩,
    ⟨0x2F829, "包|匆|北|卉|卑|博|即|卽|卿|卿|卿|𠨬|灰|及|叟|𠭣|叫|叱|吆|咞|吸|呈|周|咢|哶|唐|啓|啣|善|善|喙|喫|喳|嗂|圖|嘆|圗|噑|噴|切|壮"⟩,
    ⟨0x2F852, "城|埴|堍|型|堲|報|墬|𡓤|売|壷|夆|多|夢|奢|𡚨|𡛪|姬|娛|娧|姘|婦|㛮|㛼|嬈|嬾|嬾|𡧈|寃|寘|寧|寳|𡬘|寿|将|当|尢|㞁|屠|屮|峀|岍"⟩,
    ⟨0x2F87B, "𡷤|嵃|𡷦|嵮|嵫|嵼|巡|巢|㠯|巽|帨|帽|幩|㡢|𢆃|㡼|庰|庳|庶|廊|𪎒|廾|𢌱|𢌱|舁|弢|弢|㣇|𣊸|𦇚|形|彫|㣣|徚|忍|志|忹|悁|㤺|㤜|悔"⟩,
    ⟨0x2F8A4, "𢛔|惇|慈|慌|慎|慌|慺|憎|憲|憤|憯|懞|懲|懶|成|戛|扝|抱|拔|捐|𢬌|挽|拼|捨|掃|揤|𢯱|搢|揅|掩|㨮|摩|摾|撝|摷|㩬|敏|敬|𣀊|旣|書"⟩,
    ⟨0x2F8CD, "晉|㬙|暑|㬈|㫤|冒|冕|最|暜|肭|䏙|朗|望|朡|杞|杓|𣏃|㭉|柺|枅|桒|梅|𣑭|梎|栟|椔|㮝|楂|榣|槪|檨|𣚣|櫛|㰘|次|𣢧|歔|㱎|歲|殟|殺"⟩,
    ⟨0x2F8F6, "殻|𣪍|𡴋|𣫺|汎|𣲼|沿|泍|汧|洖|派|海|流|浩|浸|涅|𣴞|洴|港|湮|㴳|滋|滇|𣻑|淹|潮|𣽞|𣾎|濆|瀹|瀞|瀛|㶖|灊|災|灷|炭|𠔥|煅|𤉣|熜"⟩,
    ⟨0x2F91F, "𤎫|爨|爵|牐|𤘈|犀|犕|𤜵|𤠔|獺|王|㺬|玥|㺸|㺸|瑇|瑜|瑱|璅|瓊|㼛|甤|𤰶|甾|𤲒|異|𢆟|瘐|𤾡|𤾸|𥁄|㿼|䀈|直|𥃳|𥃲|𥄙|𥄳|眞|真|真"⟩,
    ⟨0x2F948, "睊|䀹|瞋|䁆|䂖|𥐝|硎|碌|磌|䃣|𥘦|祖|𥚚|𥛅|福|秫|䄯|穀|穊|穏|𥥼|𥪧|𥪧|竮|䈂|𥮫|篆|築|䈧|𥲀|糒|䊠|糨|糣|紀|𥾆|絣|䌁|緇|縂|繅"⟩,
    ⟨0x2F971, "䌴|𦈨|𦉇|䍙|𦋙|罺|𦌾|羕|翺|者|𦓚|𦔣|聠|𦖨|聰|𣍟|䏕|育|脃|䐋|脾|媵|𦞧|𦞵|𣎓|𣎜|舁|舄|辞|䑫|芑|芋|芝|劳|花|芳|芽|苦|𦬼|若|茝"⟩,
    ⟨0x2F99A, "荣|莭|茣|莽|菧|著|荓|菊|菌|菜|𦰶|𦵫|𦳕|䔫|蓱|蓳|蔖|𧏊|蕤|𦼬|䕝|䕡|𦾱|𧃒|䕫|虐|虜|虧|虩|蚩|蚈|蜎|蛢|蝹|蜨|蝫|螆|䗗|蟡|蠁|䗹"⟩,
    ⟨0x2F9C3, "衠|衣|𧙧|裗|裞|䘵|裺|㒻|𧢮|𧥦|䚾|䛇|誠|諭|變|豕|𧲨|貫|賁|贛|起|𧼯|𠠄|跋|趼|跰|𠣞|軔|輸|𨗒|𨗭|邔|郱|鄑|𨜮|鄛|鈸|鋗|鋘|鉼|鏹"⟩,
    ⟨0x2F9EC, "鐕|𨯺|開|䦕|閷|𨵷|䧦|雃|嶲|霣|𩅅|𩈚|䩮|䩶|韠|𩐊|䪲|𩒖|頋|頋|頩|𩖶|飢|䬳|餩|馧|駂|駾|䯎|𩬰|鬒|鱀|鳽|䳎|䳭|鵧|𪃎|䳸|𪄅|𪈎|𪊑"⟩,
    ⟨0x2FA15, "麻|䵖|黹|黾|鼅|鼏|鼖|鼻|𪘀"⟩
  ]

end ResourceEditor.Domain
