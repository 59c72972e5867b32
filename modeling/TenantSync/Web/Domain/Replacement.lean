import TenantSync.Text.Ranges

/-! # What the characters of a domain stand for

Two domains that differ only in capital letters, or in letters that are variants of each
other, are the same: `Replacement.of?` gives the characters that a character stands for.
The tables follow the order of code points: ranges that move to other ranges, capital and
small letters in turn, rows of single characters, and rows of characters that each stand
for several. -/

namespace TenantSync.Domain.Replacement

/-- Ranges of characters that stand for the characters of another range: the first and the last
    of the range, and the first of the other. -/
def moved : List (Nat × Nat × Nat) :=
  [(0x41, 0x5A, 0x61), (0xC0, 0xD6, 0xE0), (0xD8, 0xDE, 0xF8), (0x391, 0x3A1, 0x3B1),
    (0x3A3, 0x3AB, 0x3C3), (0x400, 0x40F, 0x450), (0x410, 0x42F, 0x430), (0x531, 0x556, 0x561),
    (0x10A0, 0x10C5, 0x2D00), (0x13F8, 0x13FD, 0x13F0), (0x1C90, 0x1CBA, 0x10D0),
    (0x1D33, 0x1D3A, 0x67), (0x1DAE, 0x1DB1, 0x272), (0x1F08, 0x1F0F, 0x1F00),
    (0x1F18, 0x1F1D, 0x1F10), (0x1F28, 0x1F2F, 0x1F20), (0x1F38, 0x1F3F, 0x1F30),
    (0x1F48, 0x1F4D, 0x1F40), (0x1F68, 0x1F6F, 0x1F60), (0x2074, 0x2079, 0x34),
    (0x2080, 0x2089, 0x30), (0x2096, 0x2099, 0x6B), (0x2135, 0x2138, 0x5D0), (0x2460, 0x2468, 0x31),
    (0x24B6, 0x24CF, 0x61), (0x24D0, 0x24E9, 0x61), (0x2C00, 0x2C2F, 0x2C30),
    (0x313A, 0x313F, 0x11B0), (0x3145, 0x314E, 0x1109), (0x314F, 0x3163, 0x1161),
    (0x3178, 0x317C, 0x112B), (0x3269, 0x326D, 0x110E), (0x32E4, 0x32E9, 0x30CA),
    (0x32EE, 0x32F2, 0x30DE), (0x32F5, 0x32FA, 0x30E8), (0x32FB, 0x32FE, 0x30EF),
    (0xAB70, 0xABBF, 0x13A0), (0xFE41, 0xFE44, 0x300C), (0xFF01, 0xFF20, 0x21),
    (0xFF21, 0xFF3A, 0x61), (0xFF3B, 0xFF5E, 0x5B), (0xFF85, 0xFF8A, 0x30CA),
    (0xFF8F, 0xFF93, 0x30DE), (0xFF96, 0xFF9B, 0x30E8), (0xFFAA, 0xFFAF, 0x11B0),
    (0xFFB5, 0xFFBE, 0x1109), (0xFFC2, 0xFFC7, 0x1161), (0xFFCA, 0xFFCF, 0x1167),
    (0xFFD2, 0xFFD7, 0x116D), (0xFFE9, 0xFFEC, 0x2190), (0x10400, 0x10427, 0x10428),
    (0x104B0, 0x104D3, 0x104D8), (0x10570, 0x1057A, 0x10597), (0x1057C, 0x1058A, 0x105A3),
    (0x1058C, 0x10592, 0x105B3), (0x10C80, 0x10CB2, 0x10CC0), (0x10D50, 0x10D65, 0x10D70),
    (0x118A0, 0x118BF, 0x118C0), (0x16E40, 0x16E5F, 0x16E60), (0x16EA0, 0x16EB8, 0x16EBB),
    (0x1CCD6, 0x1CCEF, 0x61), (0x1CCF0, 0x1CCF9, 0x30), (0x1D400, 0x1D419, 0x61),
    (0x1D41A, 0x1D433, 0x61), (0x1D434, 0x1D44D, 0x61), (0x1D44E, 0x1D454, 0x61),
    (0x1D456, 0x1D467, 0x69), (0x1D468, 0x1D481, 0x61), (0x1D482, 0x1D49B, 0x61),
    (0x1D4A9, 0x1D4AC, 0x6E), (0x1D4AE, 0x1D4B5, 0x73), (0x1D4B6, 0x1D4B9, 0x61),
    (0x1D4BD, 0x1D4C3, 0x68), (0x1D4C5, 0x1D4CF, 0x70), (0x1D4D0, 0x1D4E9, 0x61),
    (0x1D4EA, 0x1D503, 0x61), (0x1D507, 0x1D50A, 0x64), (0x1D50D, 0x1D514, 0x6A),
    (0x1D516, 0x1D51C, 0x73), (0x1D51E, 0x1D537, 0x61), (0x1D53B, 0x1D53E, 0x64),
    (0x1D540, 0x1D544, 0x69), (0x1D54A, 0x1D550, 0x73), (0x1D552, 0x1D56B, 0x61),
    (0x1D56C, 0x1D585, 0x61), (0x1D586, 0x1D59F, 0x61), (0x1D5A0, 0x1D5B9, 0x61),
    (0x1D5BA, 0x1D5D3, 0x61), (0x1D5D4, 0x1D5ED, 0x61), (0x1D5EE, 0x1D607, 0x61),
    (0x1D608, 0x1D621, 0x61), (0x1D622, 0x1D63B, 0x61), (0x1D63C, 0x1D655, 0x61),
    (0x1D656, 0x1D66F, 0x61), (0x1D670, 0x1D689, 0x61), (0x1D68A, 0x1D6A3, 0x61),
    (0x1D6A8, 0x1D6B8, 0x3B1), (0x1D6BA, 0x1D6C0, 0x3C3), (0x1D6C2, 0x1D6D2, 0x3B1),
    (0x1D6D4, 0x1D6DA, 0x3C3), (0x1D6E2, 0x1D6F2, 0x3B1), (0x1D6F4, 0x1D6FA, 0x3C3),
    (0x1D6FC, 0x1D70C, 0x3B1), (0x1D70E, 0x1D714, 0x3C3), (0x1D71C, 0x1D72C, 0x3B1),
    (0x1D72E, 0x1D734, 0x3C3), (0x1D736, 0x1D746, 0x3B1), (0x1D748, 0x1D74E, 0x3C3),
    (0x1D756, 0x1D766, 0x3B1), (0x1D768, 0x1D76E, 0x3C3), (0x1D770, 0x1D780, 0x3B1),
    (0x1D782, 0x1D788, 0x3C3), (0x1D790, 0x1D7A0, 0x3B1), (0x1D7A2, 0x1D7A8, 0x3C3),
    (0x1D7AA, 0x1D7BA, 0x3B1), (0x1D7BC, 0x1D7C2, 0x3C3), (0x1D7CE, 0x1D7D7, 0x30),
    (0x1D7D8, 0x1D7E1, 0x30), (0x1D7E2, 0x1D7EB, 0x30), (0x1D7EC, 0x1D7F5, 0x30),
    (0x1D7F6, 0x1D7FF, 0x30), (0x1E030, 0x1E038, 0x430), (0x1E03C, 0x1E046, 0x43E),
    (0x1E051, 0x1E059, 0x430), (0x1E05F, 0x1E064, 0x443), (0x1E900, 0x1E921, 0x1E922),
    (0x1EE0A, 0x1EE0D, 0x643), (0x1EE2A, 0x1EE2D, 0x643), (0x1F130, 0x1F149, 0x61),
    (0x1FBF0, 0x1FBF9, 0x30)]

/-- Ranges in which a capital letter and its small letter stand in turn: the first and the last
    capital letter. -/
def paired : List (Nat × Nat) :=
  [(0x100, 0x12E), (0x134, 0x136), (0x139, 0x13D), (0x141, 0x147), (0x14A, 0x176), (0x179, 0x17D),
    (0x182, 0x184), (0x1A0, 0x1A4), (0x1B3, 0x1B5), (0x1CD, 0x1DB), (0x1DE, 0x1EE), (0x1F8, 0x21E),
    (0x222, 0x232), (0x246, 0x24E), (0x370, 0x372), (0x3D8, 0x3EE), (0x460, 0x480), (0x48A, 0x4BE),
    (0x4C1, 0x4CD), (0x4D0, 0x52E), (0x1E00, 0x1E94), (0x1EA0, 0x1EFE), (0x2C67, 0x2C6B),
    (0x2C80, 0x2CE2), (0x2CEB, 0x2CED), (0xA640, 0xA66C), (0xA680, 0xA69A), (0xA722, 0xA72E),
    (0xA732, 0xA76E), (0xA779, 0xA77B), (0xA77E, 0xA786), (0xA790, 0xA792), (0xA796, 0xA7A8),
    (0xA7B4, 0xA7C2), (0xA7C7, 0xA7C9), (0xA7CC, 0xA7DA)]

/-- Rows of characters: the first one, and what it and those behind it stand for. -/
def spelled : List (Nat × String) :=
  [(0xA0, " "), (0xAA, "a"), (0xB2, "23"), (0xB5, "μ"), (0xB9, "1o"), (0x178, "ÿ"), (0x17F, "sƀɓ"),
    (0x186, "ɔƈƈɖɗƌƌƍǝəɛƒƒɠɣƕɩɨƙƙƚƛɯɲƞɵ"), (0x1A6, "ʀƨƨʃƪƫƭƭʈưưʊʋ"), (0x1B7, "ʒƹƹƺƻƽ"),
    (0x1F4, "ǵǵƕƿ"), (0x220, "ƞ"), (0x23A, "ⱥȼȼƚⱦȿɀɂɂƀʉʌ"), (0x2B0, "hɦjrɹɻʁwy"), (0x2E0, "ɣlsxʕ"),
    (0x340, "\u0300\u0301\u0342\u0313"), (0x345, "ι"), (0x374, "ʹ͵ͷ"), (0x37E, ";ϳ"),
    (0x386, "ά·έήί"), (0x38C, "ό"), (0x38E, "ύώ"), (0x3CF, "ϗβθυύϋφπ"), (0x3F0, "κρσϳθε϶ϸϸσϻϻϼͻͼͽ"),
    (0x4C0, "ӏ"), (0xF0C, "་"), (0x10C7, "ⴧ"), (0x10CD, "ⴭ"), (0x10FC, "ნ"), (0x1C80, "вдосттъѣꙋᲊ"),
    (0x1CBD, "ჽჾჿ"), (0x1D2C, "aæbᴯdeǝ"),
    (0x1D3C, "oȣprtuwaɐɑᴂbdeəɛɜgᵎkmŋoɔᴖᴗptuᴝɯvᴥβγδφχiruvβγρφχ"), (0x1D78, "н"),
    (0x1D9B, "ɒcɕðɜfɟɡɥɨɩɪᵻʝɭᶅʟɱɰ"), (0x1DB2, "ɸʂʃƫʉʊᴜʋʌzʐʑʒθ"), (0x1E9B, "ṡẜẝß"), (0x1F59, "ὑ"),
    (0x1F5B, "ὓ"), (0x1F5D, "ὕ"), (0x1F5F, "ὗ"), (0x1F71, "άὲέὴήὶίὸόὺύὼώ"), (0x1FB8, "ᾰᾱὰά"),
    (0x1FBE, "ι"), (0x1FC8, "ὲέὴή"), (0x1FD3, "ΐ"), (0x1FD8, "ῐῑὶί"), (0x1FE3, "ΰ"),
    (0x1FE8, "ῠῡὺύῥ"), (0x1FEF, "\x60"), (0x1FF8, "ὸόὼώ"), (0x2000, "           "), (0x2011, "‐"),
    (0x202F, " "), (0x205F, " "), (0x2070, "0i"), (0x207A, "+−=()n"), (0x208A, "+−=()"),
    (0x2090, "aeoxəh"), (0x209A, "pst"), (0x2102, "c"), (0x2107, "ɛ"), (0x210A, "ghhhhħiill℔n"),
    (0x2119, "pqrrr"), (0x2124, "z℥ω℧z℩kåbc℮eefⅎmo"), (0x2139, "i"), (0x213C, "πγγπ∑"),
    (0x2145, "ddeij"), (0x2160, "i"), (0x2164, "v"), (0x2169, "x"), (0x216C, "lcdmi"),
    (0x2174, "v"), (0x2179, "x"), (0x217C, "lcdmↀↁↂↄ"), (0x2329, "〈〉"), (0x24EA, "0"),
    (0x2C60, "ⱡⱡɫᵽɽ"), (0x2C6D, "ɑɱɐɒⱱⱳⱳⱴⱶ"), (0x2C7C, "jvȿɀ"), (0x2CF2, "ⳳ"), (0x2D6F, "ⵡ"),
    (0x2E9F, "母"), (0x2EF3, "龟"),
    (0x2F00, "一丨丶丿乙亅二亠人儿入八冂冖冫几凵刀力勹匕匚匸十卜卩厂厶又口囗土士夂夊夕大女子宀寸小尢尸屮山巛工己巾干幺广廴廾弋弓彐彡彳心戈戶手支攴文斗斤方无日曰"),
    (0x2F49, "月木欠止歹殳毋比毛氏气水火爪父爻爿片牙牛犬玄玉瓜瓦甘生用田疋疒癶白皮皿目矛矢石示禸禾穴立竹米糸缶网羊羽老而耒耳聿肉臣自至臼舌舛舟艮色艸虍虫血行衣襾"),
    (0x2F92, "見角言谷豆豕豸貝赤走足身車辛辰辵邑酉釆里金長門阜隶隹雨靑非面革韋韭音頁風飛食首香馬骨高髟鬥鬯鬲鬼魚鳥鹵鹿麥麻黃黍黑黹黽鼎鼓鼠鼻齊齒龍龜龠"),
    (0x3000, " 、."), (0x3036, "〒〷十卄卅"), (0x3131, "ᄀᄁᆪᄂᆬᆭᄃᄄᄅ"), (0x3140, "ᄚᄆᄇᄈᄡ"),
    (0x3165, "ᄔᄕᇇᇈᇌᇎᇓᇗᇙᄜᇝᇟᄝᄞᄠᄢᄣᄧᄩ"), (0x317D, "ᄲᄶᅀᅇᅌᇱᇲᅗᅘᅙᆄᆅᆈᆑᆒᆔᆞᆡ"), (0x3192, "一二三四上中下甲乙丙丁天地人"),
    (0x3244, "問幼文箏"), (0x3260, "ᄀᄂᄃᄅᄆᄇᄉᄋᄌ"), (0x326E, "가나다라마바사아자차카타파하"),
    (0x327E, "우㉿一二三四五六七八九十月火水木金土日株有社名特財祝労秘男女適優印注項休写正上中下左右医宗学監企資協夜"),
    (0x32D0, "アイウエオカキクケコサシスセソタチツテト"), (0x32EA, "ヒフヘホ"), (0x32F3, "ヤユ"), (0xA69C, "ъь"),
    (0xA770, "ꝯ"), (0xA77D, "ᵹ"), (0xA78B, "ꞌꞌɥ"), (0xA7AA, "ɦɜɡɬɪꞯʞʇʝꭓ"), (0xA7C4, "ꞔʂᶎ"),
    (0xA7CB, "ɤ"), (0xA7DC, "ƛ"), (0xA7F1, "scfqꟶꟶꟷħœ"), (0xAB5C, "ꜧꬷɫꭒ"), (0xAB69, "ʍ"),
    (0xF900, "豈更車賈滑串句龜龜契金喇奈懶癩羅蘿螺裸邏樂洛烙珞落酪駱亂卵欄爛蘭鸞嵐濫藍襤拉臘蠟廊朗浪狼郎來冷勞擄櫓爐盧老蘆虜路露魯鷺碌祿綠菉錄鹿論壟弄籠聾牢磊賂"),
    (0xF949, "雷壘屢樓淚漏累縷陋勒肋凜凌稜綾菱陵讀拏樂諾丹寧怒率異北磻便復不泌數索參塞省葉說殺辰沈拾若掠略亮兩凉梁糧良諒量勵呂女廬旅濾礪閭驪麗黎力曆歷轢年憐戀撚"),
    (0xF992, "漣煉璉秊練聯輦蓮連鍊列劣咽烈裂說廉念捻殮簾獵令囹寧嶺怜玲瑩羚聆鈴零靈領例禮醴隸惡了僚寮尿料樂燎療蓼遼龍暈阮劉杻柳流溜琉留硫紐類六戮陸倫崙淪輪律慄栗"),
    (0xF9DB, "率隆利吏履易李梨泥理痢罹裏裡里離匿溺吝燐璘藺隣鱗麟林淋臨立笠粒狀炙識什茶刺切度拓糖宅洞暴輻行降見廓兀嗀﨎﨏塚﨑晴﨓﨔凞猪益礼神祥福靖精羽"),
    (0xFA20, "蘒﨡諸﨣﨤逸都﨧﨨﨩飯飼館鶴郞隷侮僧免勉勤卑喝嘆器塀墨層屮悔慨憎懲敏既暑梅海渚漢煮爫琢碑社祉祈祐祖祝禍禎穀突節練縉繁署者臭艹艹著褐視謁謹賓贈辶逸難"),
    (0xFA69, "響頻恵𤋮舘"),
    (0xFA70, "並况全侀充冀勇勺喝啕喙嗢塚墳奄奔婢嬨廒廙彩徭惘慎愈憎慠懲戴揄搜摒敖晴朗望杖歹殺流滛滋漢瀞煮瞧爵犯猪瑱甆画瘝瘟益盛直睊着磌窱節类絛練缾者荒華蝹襁覆視"),
    (0xFAB9, "調諸請謁諾諭謹變贈輸遲醙鉶陼難靖韛響頋頻鬒龜𢡊𢡄𣏕㮝䀘䀹𥉉𥳐𧻓齃龎"),
    (0xFB20, "\u05e2\u05d0\u05d3\u05d4\u05db\u05dc\u05dd\u05e8\u05ea+"),
    (0xFB50, "\u0671\u0671\u067b\u067b\u067b\u067b\u067e\u067e\u067e\u067e\u0680\u0680\u0680"),
    (0xFB5D, "\u0680\u067a\u067a\u067a\u067a\u067f\u067f\u067f\u067f\u0679\u0679\u0679\u0679"),
    (0xFB6A, "\u06a4\u06a4\u06a4\u06a4\u06a6\u06a6\u06a6\u06a6\u0684\u0684\u0684\u0684\u0683"),
    (0xFB77, "\u0683\u0683\u0683\u0686\u0686\u0686\u0686\u0687\u0687\u0687\u0687\u068d\u068d"),
    (0xFB84, "\u068c\u068c\u068e\u068e\u0688\u0688\u0698\u0698\u0691\u0691\u06a9\u06a9\u06a9"),
    (0xFB91, "\u06a9\u06af\u06af\u06af\u06af\u06b3\u06b3\u06b3\u06b3\u06b1\u06b1\u06b1\u06b1"),
    (0xFB9E, "\u06ba\u06ba\u06bb\u06bb\u06bb\u06bb\u06c0\u06c0\u06c1\u06c1\u06c1\u06c1\u06be"),
    (0xFBAB, "\u06be\u06be\u06be\u06d2\u06d2\u06d3\u06d3"),
    (0xFBD3, "\u06ad\u06ad\u06ad\u06ad\u06c7\u06c7\u06c6\u06c6\u06c8\u06c8"),
    (0xFBDE, "\u06cb\u06cb\u06c5\u06c5\u06c9\u06c9\u06d0\u06d0\u06d0\u06d0\u0649\u0649"),
    (0xFBFC, "\u06cc\u06cc\u06cc\u06cc"), (0xFE10, ",、"), (0xFE13, ":;!?〖〗"),
    (0xFE31, "—–__()\x7b\x7d〔〕【】《》〈〉"), (0xFE47, "[]"), (0xFE4D, "___,、"),
    (0xFE54, ";:?!—()\x7b\x7d〔〕#&*+-<>="), (0xFE68, "\\$%@"),
    (0xFE80, "\u0621\u0622\u0622\u0623\u0623\u0624\u0624\u0625\u0625\u0626\u0626\u0626\u0626"),
    (0xFE8D, "\u0627\u0627\u0628\u0628\u0628\u0628\u0629\u0629\u062a\u062a\u062a\u062a\u062b"),
    (0xFE9A, "\u062b\u062b\u062b\u062c\u062c\u062c\u062c\u062d\u062d\u062d\u062d\u062e\u062e"),
    (0xFEA7, "\u062e\u062e\u062f\u062f\u0630\u0630\u0631\u0631\u0632\u0632\u0633\u0633\u0633"),
    (0xFEB4, "\u0633\u0634\u0634\u0634\u0634\u0635\u0635\u0635\u0635\u0636\u0636\u0636\u0636"),
    (0xFEC1, "\u0637\u0637\u0637\u0637\u0638\u0638\u0638\u0638\u0639\u0639\u0639\u0639\u063a"),
    (0xFECE, "\u063a\u063a\u063a\u0641\u0641\u0641\u0641\u0642\u0642\u0642\u0642\u0643\u0643"),
    (0xFEDB, "\u0643\u0643\u0644\u0644\u0644\u0644\u0645\u0645\u0645\u0645\u0646\u0646\u0646"),
    (0xFEE8, "\u0646\u0647\u0647\u0647\u0647\u0648\u0648\u0649\u0649\u064a\u064a\u064a\u064a"),
    (0xFF5F, "⦅⦆.「」、・ヲァィゥェォャュョッーアイウエオカキクケコサシスセソタチツテト"), (0xFF8B, "ヒフヘホ"), (0xFF94, "ヤユ"),
    (0xFF9C, "ワン\u3099\u309a"), (0xFFA1, "ᄀᄁᆪᄂᆬᆭᄃᄄᄅ"), (0xFFB0, "ᄚᄆᄇᄈᄡ"), (0xFFDA, "ᅳᅴᅵ"),
    (0xFFE0, "¢£¬"), (0xFFE4, "¦¥₩"), (0xFFE8, "│"), (0xFFED, "■○"), (0x10594, "𐖻𐖼"),
    (0x10781, "ːˑæʙɓ"), (0x10787, "ʣꭦʥʤɖɗᶑɘɞʩɤɢɠʛħʜɧʄʪʫɬ𝼄ꞎɮ𝼅ʎ𝼆øɶɷqɺ𝼈ɽɾʀʨʦꭧʧʈⱱ"),
    (0x107B2, "ʏʡʢʘǀǁǂ𝼊𝼞"), (0x1D49C, "a"), (0x1D49E, "cd"), (0x1D4A2, "g"), (0x1D4A5, "jk"),
    (0x1D4BB, "f"), (0x1D504, "ab"), (0x1D538, "ab"), (0x1D546, "o"), (0x1D6A4, "ıȷ"),
    (0x1D6B9, "θ"), (0x1D6C1, "∇"), (0x1D6D3, "σ"), (0x1D6DB, "∂εθκφρπ"), (0x1D6F3, "θ"),
    (0x1D6FB, "∇"), (0x1D70D, "σ"), (0x1D715, "∂εθκφρπ"), (0x1D72D, "θ"), (0x1D735, "∇"),
    (0x1D747, "σ"), (0x1D74F, "∂εθκφρπ"), (0x1D767, "θ"), (0x1D76F, "∇"), (0x1D781, "σ"),
    (0x1D789, "∂εθκφρπ"), (0x1D7A1, "θ"), (0x1D7A9, "∇"), (0x1D7BB, "σ"), (0x1D7C3, "∂εθκφρπϝϝ"),
    (0x1E039, "клм"), (0x1E047, "ыэюꚉәіјөүӏ"), (0x1E05A, "клопс"), (0x1E065, "ъыґіѕџҫꙑұ"),
    (0x1EE00, "\u0627\u0628\u062c\u062f"), (0x1EE05, "\u0648\u0632\u062d\u0637\u064a"),
    (0x1EE0E, "\u0633\u0639\u0641\u0635\u0642\u0631\u0634\u062a\u062b\u062e\u0630\u0636\u0638"),
    (0x1EE1B, "\u063a\u066e\u06ba\u06a1\u066f"), (0x1EE21, "\u0628\u062c"), (0x1EE24, "\u0647"),
    (0x1EE27, "\u062d"), (0x1EE29, "\u064a"), (0x1EE2E, "\u0633\u0639\u0641\u0635\u0642"),
    (0x1EE34, "\u0634\u062a\u062b\u062e"), (0x1EE39, "\u0636"), (0x1EE3B, "\u063a"),
    (0x1EE42, "\u062c"), (0x1EE47, "\u062d"), (0x1EE49, "\u064a"), (0x1EE4B, "\u0644"),
    (0x1EE4D, "\u0646\u0633\u0639"), (0x1EE51, "\u0635\u0642"), (0x1EE54, "\u0634"),
    (0x1EE57, "\u062e"), (0x1EE59, "\u0636"), (0x1EE5B, "\u063a"), (0x1EE5D, "\u06ba"),
    (0x1EE5F, "\u066f"), (0x1EE61, "\u0628\u062c"), (0x1EE64, "\u0647"),
    (0x1EE67, "\u062d\u0637\u064a\u0643"), (0x1EE6C, "\u0645\u0646\u0633\u0639\u0641\u0635\u0642"),
    (0x1EE74, "\u0634\u062a\u062b\u062e"), (0x1EE79, "\u0636\u0638\u063a\u066e"),
    (0x1EE7E, "\u06a1"), (0x1EE80, "\u0627\u0628\u062c\u062f\u0647\u0648\u0632\u062d\u0637\u064a"),
    (0x1EE8B, "\u0644\u0645\u0646\u0633\u0639\u0641\u0635\u0642\u0631\u0634\u062a\u062b\u062e"),
    (0x1EE98, "\u0630\u0636\u0638\u063a"), (0x1EEA1, "\u0628\u062c\u062f"),
    (0x1EEA5, "\u0648\u0632\u062d\u0637\u064a"),
    (0x1EEAB, "\u0644\u0645\u0646\u0633\u0639\u0641\u0635\u0642\u0631\u0634\u062a\u062b\u062e"),
    (0x1EEB8, "\u0630\u0636\u0638\u063a"), (0x1F12B, "cr"), (0x1F202, "サ"),
    (0x1F210, "手字双デ二多解天交映無料前後再新初終生販声吹演投捕一三遊左中右指走打禁空合満有月申割営配"), (0x1F250, "得可"),
    (0x2F800, "丽丸乁𠄢你侮侻倂偺備僧像㒞𠘺免兔兤具𠔜㒹內再𠕋冗冤仌冬况𩇟凵刃㓟刻剆割剷㔕勇勉勤勺包匆北卉卑博即卽卿卿卿𠨬灰及叟𠭣叫叱吆咞吸呈周咢哶唐啓啣善善喙喫"),
    (0x2F849, "喳嗂圖嘆圗噑噴切壮城埴堍型堲報墬𡓤売壷夆多夢奢𡚨𡛪姬娛娧姘婦㛮㛼嬈嬾嬾𡧈寃寘寧寳𡬘寿将当尢㞁屠屮峀岍𡷤嵃𡷦嵮嵫嵼巡巢㠯巽帨帽幩㡢𢆃㡼庰庳庶廊𪎒廾𢌱"),
    (0x2F892, "𢌱舁弢弢㣇𣊸𦇚形彫㣣徚忍志忹悁㤺㤜悔𢛔惇慈慌慎慌慺憎憲憤憯懞懲懶成戛扝抱拔捐𢬌挽拼捨掃揤𢯱搢揅掩㨮摩摾撝摷㩬敏敬𣀊旣書晉㬙暑㬈㫤冒冕最暜肭䏙朗望朡"),
    (0x2F8DB, "杞杓𣏃㭉柺枅桒梅𣑭梎栟椔㮝楂榣槪檨𣚣櫛㰘次𣢧歔㱎歲殟殺殻𣪍𡴋𣫺汎𣲼沿泍汧洖派海流浩浸涅𣴞洴港湮㴳滋滇𣻑淹潮𣽞𣾎濆瀹瀞瀛㶖灊災灷炭𠔥煅𤉣熜𤎫爨爵牐𤘈"),
    (0x2F924, "犀犕𤜵𤠔獺王㺬玥㺸㺸瑇瑜瑱璅瓊㼛甤𤰶甾𤲒異𢆟瘐𤾡𤾸𥁄㿼䀈直𥃳𥃲𥄙𥄳眞真真睊䀹瞋䁆䂖𥐝硎碌磌䃣𥘦祖𥚚𥛅福秫䄯穀穊穏𥥼𥪧𥪧竮䈂𥮫篆築䈧𥲀糒䊠糨糣紀𥾆絣"),
    (0x2F96D, "䌁緇縂繅䌴𦈨𦉇䍙𦋙罺𦌾羕翺者𦓚𦔣聠𦖨聰𣍟䏕育脃䐋脾媵𦞧𦞵𣎓𣎜舁舄辞䑫芑芋芝劳花芳芽苦𦬼若茝荣莭茣莽菧著荓菊菌菜𦰶𦵫𦳕䔫蓱蓳蔖𧏊蕤𦼬䕝䕡𦾱𧃒䕫虐虜虧"),
    (0x2F9B6, "虩蚩蚈蜎蛢蝹蜨蝫螆䗗蟡蠁䗹衠衣𧙧裗裞䘵裺㒻𧢮𧥦䚾䛇誠諭變豕𧲨貫賁贛起𧼯𠠄跋趼跰𠣞軔輸𨗒𨗭邔郱鄑𨜮鄛鈸鋗鋘鉼鏹鐕𨯺開䦕閷𨵷䧦雃嶲霣𩅅𩈚䩮䩶韠𩐊䪲𩒖頋"),
    (0x2F9FF, "頋頩𩖶飢䬳餩馧駂駾䯎𩬰鬒鱀鳽䳎䳭鵧𪃎䳸𪄅𪈎𪊑麻䵖黹黾鼅鼏鼖鼻𪘀")]

/-- Rows of characters that each stand for several: the first one, and what it and those behind it
    stand for, between bars. -/
def expanded : List (Nat × String) :=
  [(0xA8, " \u0308"), (0xAF, " \u0304"), (0xB4, " \u0301"), (0xB8, " \u0327"),
    (0xBC, "1⁄4|1⁄2|3⁄4"), (0x130, "i\u0307"), (0x132, "ij|ij"), (0x13F, "l·|l·"), (0x149, "ʼn"),
    (0x1C4, "dž|dž|dž|lj|lj|lj|nj|nj|nj"), (0x1F1, "dz|dz|dz"),
    (0x2D8, " \u0306| \u0307| \u030a| \u0328| \u0303| \u030b"), (0x344, "\u0308\u0301"),
    (0x37A, " ι"), (0x384, " \u0301| \u0308\u0301"), (0x587, "եւ"),
    (0x675, "\u0627\u0674|\u0648\u0674|\u06c7\u0674|\u064a\u0674"),
    (0x958, "क\u093c|ख\u093c|ग\u093c|ज\u093c|ड\u093c|ढ\u093c|फ\u093c|य\u093c"),
    (0x9DC, "ড\u09bc|ঢ\u09bc"), (0x9DF, "য\u09bc"), (0xA33, "ਲ\u0a3c"), (0xA36, "ਸ\u0a3c"),
    (0xA59, "ਖ\u0a3c|ਗ\u0a3c|ਜ\u0a3c"), (0xA5E, "ਫ\u0a3c"), (0xB5C, "ଡ\u0b3c|ଢ\u0b3c"),
    (0xE33, "\u0e4dา"), (0xEB3, "\u0ecdາ"), (0xEDC, "ຫນ|ຫມ"), (0xF43, "ག\u0fb7"),
    (0xF4D, "ཌ\u0fb7"), (0xF52, "ད\u0fb7"), (0xF57, "བ\u0fb7"), (0xF5C, "ཛ\u0fb7"),
    (0xF69, "ཀ\u0fb5"), (0xF73, "\u0f71\u0f72"),
    (0xF75, "\u0f71\u0f74|\u0fb2\u0f80|\u0fb2\u0f71\u0f80|\u0fb3\u0f80|\u0fb3\u0f71\u0f80"),
    (0xF81, "\u0f71\u0f80"), (0xF93, "\u0f92\u0fb7"), (0xF9D, "\u0f9c\u0fb7"),
    (0xFA2, "\u0fa1\u0fb7"), (0xFA7, "\u0fa6\u0fb7"), (0xFAC, "\u0fab\u0fb7"),
    (0xFB9, "\u0f90\u0fb5"), (0x1E9A, "aʾ"),
    (0x1F80, "ἀι|ἁι|ἂι|ἃι|ἄι|ἅι|ἆι|ἇι|ἀι|ἁι|ἂι|ἃι|ἄι|ἅι|ἆι|ἇι|ἠι|ἡι|ἢι|ἣι|ἤι|ἥι|ἦι|ἧι|ἠι"),
    (0x1F99, "ἡι|ἢι|ἣι|ἤι|ἥι|ἦι|ἧι|ὠι|ὡι|ὢι|ὣι|ὤι|ὥι|ὦι|ὧι|ὠι|ὡι|ὢι|ὣι|ὤι|ὥι|ὦι|ὧι"),
    (0x1FB2, "ὰι|αι|άι"), (0x1FB7, "ᾶι"), (0x1FBC, "αι| \u0313"),
    (0x1FBF, " \u0313| \u0342| \u0308\u0342|ὴι|ηι|ήι"), (0x1FC7, "ῆι"),
    (0x1FCC, "ηι| \u0313\u0300| \u0313\u0301| \u0313\u0342"),
    (0x1FDD, " \u0314\u0300| \u0314\u0301| \u0314\u0342"), (0x1FED, " \u0308\u0300| \u0308\u0301"),
    (0x1FF2, "ὼι|ωι|ώι"), (0x1FF7, "ῶι"), (0x1FFC, "ωι| \u0301| \u0314"), (0x2017, " \u0333"),
    (0x2033, "′′|′′′"), (0x2036, "‵‵|‵‵‵"), (0x203C, "!!"), (0x203E, " \u0305"),
    (0x2047, "??|?!|!?"), (0x2057, "′′′′"), (0x20A8, "rs"), (0x2100, "a/c|a/s"), (0x2103, "°c"),
    (0x2105, "c/o|c/u"), (0x2109, "°f"), (0x2116, "no"), (0x2120, "sm|tel|tm"), (0x213B, "fax"),
    (0x2150, "1⁄7|1⁄9|1⁄10|1⁄3|2⁄3|1⁄5|2⁄5|3⁄5|4⁄5|1⁄6|5⁄6|1⁄8|3⁄8|5⁄8|7⁄8|1⁄"),
    (0x2161, "ii|iii|iv"), (0x2165, "vi|vii|viii|ix"), (0x216A, "xi|xii"), (0x2171, "ii|iii|iv"),
    (0x2175, "vi|vii|viii|ix"), (0x217A, "xi|xii"), (0x2189, "0⁄3"), (0x222C, "∫∫|∫∫∫"),
    (0x222F, "∮∮|∮∮∮"),
    (0x2469, "10|11|12|13|14|15|16|17|18|19|20|(1)|(2)|(3)|(4)|(5)|(6)|(7)|(8)|(9)|(10)"),
    (0x247E, "(11)|(12)|(13)|(14)|(15)|(16)|(17)|(18)|(19)|(20)"),
    (0x249C, "(a)|(b)|(c)|(d)|(e)|(f)|(g)|(h)|(i)|(j)|(k)|(l)|(m)|(n)|(o)|(p)|(q)|(r)|(s)"),
    (0x24AF, "(t)|(u)|(v)|(w)|(x)|(y)|(z)"), (0x2A0C, "∫∫∫∫"), (0x2A74, "::=|==|==="),
    (0x2ADC, "⫝\u0338"), (0x309B, " \u3099| \u309a"), (0x309F, "より"), (0x30FF, "コト"),
    (0x3200, "(ᄀ)|(ᄂ)|(ᄃ)|(ᄅ)|(ᄆ)|(ᄇ)|(ᄉ)|(ᄋ)|(ᄌ)|(ᄎ)|(ᄏ)|(ᄐ)|(ᄑ)|(ᄒ)|(가)|(나)|(다)|(라)|(마)"),
    (0x3213, "(바)|(사)|(아)|(자)|(차)|(카)|(타)|(파)|(하)|(주)|(오전)|(오후)"),
    (0x3220, "(一)|(二)|(三)|(四)|(五)|(六)|(七)|(八)|(九)|(十)|(月)|(火)|(水)|(木)|(金)|(土)|(日)|(株)|(有)"),
    (0x3233, "(社)|(名)|(特)|(財)|(祝)|(労)|(代)|(呼)|(学)|(監)|(企)|(資)|(協)|(祭)|(休)|(自)|(至)"),
    (0x3250, "pte|21|22|23|24|25|26|27|28|29|30|31|32|33|34|35"), (0x327C, "참고|주의"),
    (0x32B1, "36|37|38|39|40|41|42|43|44|45|46|47|48|49|50|1月|2月|3月|4月|5月|6月|7月|8月|9月|10月"),
    (0x32CA, "11月|12月|hg|erg|ev|ltd"),
    (0x32FF, "令和|アパート|アルファ|アンペア|アール|イニング|インチ|ウォン|エスクード|エーカー|オンス|オーム|カイリ|カラット|カロリー|ガロン|ガンマ"),
    (0x3310, "ギガ|ギニー|キュリー|ギルダー|キロ|キログラム|キロメートル|キロワット|グラム|グラムトン|クルゼイロ|クローネ|ケース|コルナ|コーポ|サイクル"),
    (0x3320, "サンチーム|シリング|センチ|セント|ダース|デシ|ドル|トン|ナノ|ノット|ハイツ|パーセント|パーツ|バーレル|ピアストル|ピクル|ピコ|ビル"),
    (0x3332, "ファラッド|フィート|ブッシェル|フラン|ヘクタール|ペソ|ペニヒ|ヘルツ|ペンス|ページ|ベータ|ポイント|ボルト|ホン|ポンド|ホール|ホーン"),
    (0x3343, "マイクロ|マイル|マッハ|マルク|マンション|ミクロン|ミリ|ミリバール|メガ|メガトン|メートル|ヤード|ヤール|ユアン|リットル|リラ|ルピー"),
    (0x3354, "ルーブル|レム|レントゲン|ワット|0点|1点|2点|3点|4点|5点|6点|7点|8点|9点|10点|11点|12点|13点|14点|15点|16点"),
    (0x3369, "17点|18点|19点|20点|21点|22点|23点|24点|hpa|da|au|bar|ov|pc|dm|dm2|dm3|iu|平成|昭和|大正"),
    (0x337E, "明治|株式会社|pa|na|μa|ma|ka|kb|mb|gb|cal|kcal|pf|nf|μf|μg|mg|kg|hz|khz|mhz|ghz"),
    (0x3394, "thz|μl|ml|dl|kl|fm|nm|μm|mm|cm|km|mm2|cm2|m2|km2|mm3|cm3|m3|km3|m∕s|m∕s2|pa"),
    (0x33AA, "kpa|mpa|gpa|rad|rad∕s|rad∕s2|ps|ns|μs|ms|pv|nv|μv|mv|kv|mv|pw|nw|μw|mw|kw|mw"),
    (0x33C0, "kω|mω"), (0x33C3, "bq|cc|cd|c∕kg"),
    (0x33C8, "db|gy|ha|hp|in|kk|km|kt|lm|ln|log|lx|mb|mil|mol|ph"),
    (0x33D9, "ppm|pr|sr|sv|wb|v∕m|a∕m|1日|2日|3日|4日|5日|6日|7日|8日|9日|10日|11日|12日|13日|14日|15日"),
    (0x33EF, "16日|17日|18日|19日|20日|21日|22日|23日|24日|25日|26日|27日|28日|29日|30日|31日|gal"),
    (0xFB00, "ff|fi|fl|ffi|ffl|st|st"), (0xFB13, "մն|մե|մի|վն|մխ"), (0xFB1D, "\u05d9\u05b4"),
    (0xFB1F, "\u05f2\u05b7"),
    (0xFB2A, "\u05e9\u05c1|\u05e9\u05c2|\u05e9\u05bc\u05c1|\u05e9\u05bc\u05c2|\u05d0\u05b7"),
    (0xFB2F, "\u05d0\u05b8|\u05d0\u05bc|\u05d1\u05bc|\u05d2\u05bc|\u05d3\u05bc"),
    (0xFB34, "\u05d4\u05bc|\u05d5\u05bc|\u05d6\u05bc"),
    (0xFB38, "\u05d8\u05bc|\u05d9\u05bc|\u05da\u05bc|\u05db\u05bc|\u05dc\u05bc"),
    (0xFB3E, "\u05de\u05bc"), (0xFB40, "\u05e0\u05bc|\u05e1\u05bc"),
    (0xFB43, "\u05e3\u05bc|\u05e4\u05bc"),
    (0xFB46, "\u05e6\u05bc|\u05e7\u05bc|\u05e8\u05bc|\u05e9\u05bc|\u05ea\u05bc"),
    (0xFB4B, "\u05d5\u05b9|\u05d1\u05bf|\u05db\u05bf|\u05e4\u05bf|\u05d0\u05dc"),
    (0xFBDD, "\u06c7\u0674"),
    (0xFBEA, "\u0626\u0627|\u0626\u0627|\u0626\u06d5|\u0626\u06d5|\u0626\u0648"),
    (0xFBEF, "\u0626\u0648|\u0626\u06c7|\u0626\u06c7|\u0626\u06c6|\u0626\u06c6"),
    (0xFBF4, "\u0626\u06c8|\u0626\u06c8|\u0626\u06d0|\u0626\u06d0|\u0626\u06d0"),
    (0xFBF9, "\u0626\u0649|\u0626\u0649|\u0626\u0649"),
    (0xFC00, "\u0626\u062c|\u0626\u062d|\u0626\u0645|\u0626\u0649|\u0626\u064a"),
    (0xFC05, "\u0628\u062c|\u0628\u062d|\u0628\u062e|\u0628\u0645|\u0628\u0649"),
    (0xFC0A, "\u0628\u064a|\u062a\u062c|\u062a\u062d|\u062a\u062e|\u062a\u0645"),
    (0xFC0F, "\u062a\u0649|\u062a\u064a|\u062b\u062c|\u062b\u0645|\u062b\u0649"),
    (0xFC14, "\u062b\u064a|\u062c\u062d|\u062c\u0645|\u062d\u062c|\u062d\u0645"),
    (0xFC19, "\u062e\u062c|\u062e\u062d|\u062e\u0645|\u0633\u062c|\u0633\u062d"),
    (0xFC1E, "\u0633\u062e|\u0633\u0645|\u0635\u062d|\u0635\u0645|\u0636\u062c"),
    (0xFC23, "\u0636\u062d|\u0636\u062e|\u0636\u0645|\u0637\u062d|\u0637\u0645"),
    (0xFC28, "\u0638\u0645|\u0639\u062c|\u0639\u0645|\u063a\u062c|\u063a\u0645"),
    (0xFC2D, "\u0641\u062c|\u0641\u062d|\u0641\u062e|\u0641\u0645|\u0641\u0649"),
    (0xFC32, "\u0641\u064a|\u0642\u062d|\u0642\u0645|\u0642\u0649|\u0642\u064a"),
    (0xFC37, "\u0643\u0627|\u0643\u062c|\u0643\u062d|\u0643\u062e|\u0643\u0644"),
    (0xFC3C, "\u0643\u0645|\u0643\u0649|\u0643\u064a|\u0644\u062c|\u0644\u062d"),
    (0xFC41, "\u0644\u062e|\u0644\u0645|\u0644\u0649|\u0644\u064a|\u0645\u062c"),
    (0xFC46, "\u0645\u062d|\u0645\u062e|\u0645\u0645|\u0645\u0649|\u0645\u064a"),
    (0xFC4B, "\u0646\u062c|\u0646\u062d|\u0646\u062e|\u0646\u0645|\u0646\u0649"),
    (0xFC50, "\u0646\u064a|\u0647\u062c|\u0647\u0645|\u0647\u0649|\u0647\u064a"),
    (0xFC55, "\u064a\u062c|\u064a\u062d|\u064a\u062e|\u064a\u0645|\u064a\u0649"),
    (0xFC5A, "\u064a\u064a|\u0630\u0670|\u0631\u0670|\u0649\u0670| \u064c\u0651"),
    (0xFC5F, " \u064d\u0651| \u064e\u0651| \u064f\u0651| \u0650\u0651| \u0651\u0670"),
    (0xFC64, "\u0626\u0631|\u0626\u0632|\u0626\u0645|\u0626\u0646|\u0626\u0649"),
    (0xFC69, "\u0626\u064a|\u0628\u0631|\u0628\u0632|\u0628\u0645|\u0628\u0646"),
    (0xFC6E, "\u0628\u0649|\u0628\u064a|\u062a\u0631|\u062a\u0632|\u062a\u0645"),
    (0xFC73, "\u062a\u0646|\u062a\u0649|\u062a\u064a|\u062b\u0631|\u062b\u0632"),
    (0xFC78, "\u062b\u0645|\u062b\u0646|\u062b\u0649|\u062b\u064a|\u0641\u0649"),
    (0xFC7D, "\u0641\u064a|\u0642\u0649|\u0642\u064a|\u0643\u0627|\u0643\u0644"),
    (0xFC82, "\u0643\u0645|\u0643\u0649|\u0643\u064a|\u0644\u0645|\u0644\u0649"),
    (0xFC87, "\u0644\u064a|\u0645\u0627|\u0645\u0645|\u0646\u0631|\u0646\u0632"),
    (0xFC8C, "\u0646\u0645|\u0646\u0646|\u0646\u0649|\u0646\u064a|\u0649\u0670"),
    (0xFC91, "\u064a\u0631|\u064a\u0632|\u064a\u0645|\u064a\u0646|\u064a\u0649"),
    (0xFC96, "\u064a\u064a|\u0626\u062c|\u0626\u062d|\u0626\u062e|\u0626\u0645"),
    (0xFC9B, "\u0626\u0647|\u0628\u062c|\u0628\u062d|\u0628\u062e|\u0628\u0645"),
    (0xFCA0, "\u0628\u0647|\u062a\u062c|\u062a\u062d|\u062a\u062e|\u062a\u0645"),
    (0xFCA5, "\u062a\u0647|\u062b\u0645|\u062c\u062d|\u062c\u0645|\u062d\u062c"),
    (0xFCAA, "\u062d\u0645|\u062e\u062c|\u062e\u0645|\u0633\u062c|\u0633\u062d"),
    (0xFCAF, "\u0633\u062e|\u0633\u0645|\u0635\u062d|\u0635\u062e|\u0635\u0645"),
    (0xFCB4, "\u0636\u062c|\u0636\u062d|\u0636\u062e|\u0636\u0645|\u0637\u062d"),
    (0xFCB9, "\u0638\u0645|\u0639\u062c|\u0639\u0645|\u063a\u062c|\u063a\u0645"),
    (0xFCBE, "\u0641\u062c|\u0641\u062d|\u0641\u062e|\u0641\u0645|\u0642\u062d"),
    (0xFCC3, "\u0642\u0645|\u0643\u062c|\u0643\u062d|\u0643\u062e|\u0643\u0644"),
    (0xFCC8, "\u0643\u0645|\u0644\u062c|\u0644\u062d|\u0644\u062e|\u0644\u0645"),
    (0xFCCD, "\u0644\u0647|\u0645\u062c|\u0645\u062d|\u0645\u062e|\u0645\u0645"),
    (0xFCD2, "\u0646\u062c|\u0646\u062d|\u0646\u062e|\u0646\u0645|\u0646\u0647"),
    (0xFCD7, "\u0647\u062c|\u0647\u0645|\u0647\u0670|\u064a\u062c|\u064a\u062d"),
    (0xFCDC, "\u064a\u062e|\u064a\u0645|\u064a\u0647|\u0626\u0645|\u0626\u0647"),
    (0xFCE1, "\u0628\u0645|\u0628\u0647|\u062a\u0645|\u062a\u0647|\u062b\u0645"),
    (0xFCE6, "\u062b\u0647|\u0633\u0645|\u0633\u0647|\u0634\u0645|\u0634\u0647"),
    (0xFCEB, "\u0643\u0644|\u0643\u0645|\u0644\u0645|\u0646\u0645|\u0646\u0647"),
    (0xFCF0, "\u064a\u0645|\u064a\u0647|\u0640\u064e\u0651|\u0640\u064f\u0651"),
    (0xFCF4, "\u0640\u0650\u0651|\u0637\u0649|\u0637\u064a|\u0639\u0649|\u0639\u064a"),
    (0xFCF9, "\u063a\u0649|\u063a\u064a|\u0633\u0649|\u0633\u064a|\u0634\u0649"),
    (0xFCFE, "\u0634\u064a|\u062d\u0649|\u062d\u064a|\u062c\u0649|\u062c\u064a"),
    (0xFD03, "\u062e\u0649|\u062e\u064a|\u0635\u0649|\u0635\u064a|\u0636\u0649"),
    (0xFD08, "\u0636\u064a|\u0634\u062c|\u0634\u062d|\u0634\u062e|\u0634\u0645"),
    (0xFD0D, "\u0634\u0631|\u0633\u0631|\u0635\u0631|\u0636\u0631|\u0637\u0649"),
    (0xFD12, "\u0637\u064a|\u0639\u0649|\u0639\u064a|\u063a\u0649|\u063a\u064a"),
    (0xFD17, "\u0633\u0649|\u0633\u064a|\u0634\u0649|\u0634\u064a|\u062d\u0649"),
    (0xFD1C, "\u062d\u064a|\u062c\u0649|\u062c\u064a|\u062e\u0649|\u062e\u064a"),
    (0xFD21, "\u0635\u0649|\u0635\u064a|\u0636\u0649|\u0636\u064a|\u0634\u062c"),
    (0xFD26, "\u0634\u062d|\u0634\u062e|\u0634\u0645|\u0634\u0631|\u0633\u0631"),
    (0xFD2B, "\u0635\u0631|\u0636\u0631|\u0634\u062c|\u0634\u062d|\u0634\u062e"),
    (0xFD30, "\u0634\u0645|\u0633\u0647|\u0634\u0647|\u0637\u0645|\u0633\u062c"),
    (0xFD35, "\u0633\u062d|\u0633\u062e|\u0634\u062c|\u0634\u062d|\u0634\u062e"),
    (0xFD3A, "\u0637\u0645|\u0638\u0645|\u0627\u064b|\u0627\u064b"),
    (0xFD50, "\u062a\u062c\u0645|\u062a\u062d\u062c|\u062a\u062d\u062c|\u062a\u062d\u0645"),
    (0xFD54, "\u062a\u062e\u0645|\u062a\u0645\u062c|\u062a\u0645\u062d|\u062a\u0645\u062e"),
    (0xFD58, "\u062c\u0645\u062d|\u062c\u0645\u062d|\u062d\u0645\u064a|\u062d\u0645\u0649"),
    (0xFD5C, "\u0633\u062d\u062c|\u0633\u062c\u062d|\u0633\u062c\u0649|\u0633\u0645\u062d"),
    (0xFD60, "\u0633\u0645\u062d|\u0633\u0645\u062c|\u0633\u0645\u0645|\u0633\u0645\u0645"),
    (0xFD64, "\u0635\u062d\u062d|\u0635\u062d\u062d|\u0635\u0645\u0645|\u0634\u062d\u0645"),
    (0xFD68, "\u0634\u062d\u0645|\u0634\u062c\u064a|\u0634\u0645\u062e|\u0634\u0645\u062e"),
    (0xFD6C, "\u0634\u0645\u0645|\u0634\u0645\u0645|\u0636\u062d\u0649|\u0636\u062e\u0645"),
    (0xFD70, "\u0636\u062e\u0645|\u0637\u0645\u062d|\u0637\u0645\u062d|\u0637\u0645\u0645"),
    (0xFD74, "\u0637\u0645\u064a|\u0639\u062c\u0645|\u0639\u0645\u0645|\u0639\u0645\u0645"),
    (0xFD78, "\u0639\u0645\u0649|\u063a\u0645\u0645|\u063a\u0645\u064a|\u063a\u0645\u0649"),
    (0xFD7C, "\u0641\u062e\u0645|\u0641\u062e\u0645|\u0642\u0645\u062d|\u0642\u0645\u0645"),
    (0xFD80, "\u0644\u062d\u0645|\u0644\u062d\u064a|\u0644\u062d\u0649|\u0644\u062c\u062c"),
    (0xFD84, "\u0644\u062c\u062c|\u0644\u062e\u0645|\u0644\u062e\u0645|\u0644\u0645\u062d"),
    (0xFD88, "\u0644\u0645\u062d|\u0645\u062d\u062c|\u0645\u062d\u0645|\u0645\u062d\u064a"),
    (0xFD8C, "\u0645\u062c\u062d|\u0645\u062c\u0645|\u0645\u062e\u062c|\u0645\u062e\u0645"),
    (0xFD92, "\u0645\u062c\u062e|\u0647\u0645\u062c|\u0647\u0645\u0645|\u0646\u062d\u0645"),
    (0xFD96, "\u0646\u062d\u0649|\u0646\u062c\u0645|\u0646\u062c\u0645|\u0646\u062c\u0649"),
    (0xFD9A, "\u0646\u0645\u064a|\u0646\u0645\u0649|\u064a\u0645\u0645|\u064a\u0645\u0645"),
    (0xFD9E, "\u0628\u062e\u064a|\u062a\u062c\u064a|\u062a\u062c\u0649|\u062a\u062e\u064a"),
    (0xFDA2, "\u062a\u062e\u0649|\u062a\u0645\u064a|\u062a\u0645\u0649|\u062c\u0645\u064a"),
    (0xFDA6, "\u062c\u062d\u0649|\u062c\u0645\u0649|\u0633\u062e\u0649|\u0635\u062d\u064a"),
    (0xFDAA, "\u0634\u062d\u064a|\u0636\u062d\u064a|\u0644\u062c\u064a|\u0644\u0645\u064a"),
    (0xFDAE, "\u064a\u062d\u064a|\u064a\u062c\u064a|\u064a\u0645\u064a|\u0645\u0645\u064a"),
    (0xFDB2, "\u0642\u0645\u064a|\u0646\u062d\u064a|\u0642\u0645\u062d|\u0644\u062d\u0645"),
    (0xFDB6, "\u0639\u0645\u064a|\u0643\u0645\u064a|\u0646\u062c\u062d|\u0645\u062e\u064a"),
    (0xFDBA, "\u0644\u062c\u0645|\u0643\u0645\u0645|\u0644\u062c\u0645|\u0646\u062c\u062d"),
    (0xFDBE, "\u062c\u062d\u064a|\u062d\u062c\u064a|\u0645\u062c\u064a|\u0641\u0645\u064a"),
    (0xFDC2, "\u0628\u062d\u064a|\u0643\u0645\u0645|\u0639\u062c\u0645|\u0635\u0645\u0645"),
    (0xFDC6, "\u0633\u062e\u064a|\u0646\u062c\u064a"),
    (0xFDF0, "\u0635\u0644\u06d2|\u0642\u0644\u06d2|\u0627\u0644\u0644\u0647"),
    (0xFDF3, "\u0627\u0643\u0628\u0631|\u0645\u062d\u0645\u062f|\u0635\u0644\u0639\u0645"),
    (0xFDF6, "\u0631\u0633\u0648\u0644|\u0639\u0644\u064a\u0647|\u0648\u0633\u0644\u0645"),
    (0xFDF9, "\u0635\u0644\u0649"), (0xFDFA, "صلى الله عليه وسلم"),
    (0xFDFB, "\u062c\u0644 \u062c\u0644\u0627\u0644\u0647|\u0631\u06cc\u0627\u0644"),
    (0xFE49, " \u0305| \u0305| \u0305| \u0305"), (0xFE70, " \u064b|\u0640\u064b| \u064c"),
    (0xFE74, " \u064d"),
    (0xFE76, " \u064e|\u0640\u064e| \u064f|\u0640\u064f| \u0650|\u0640\u0650| \u0651"),
    (0xFE7D, "\u0640\u0651| \u0652|\u0640\u0652"),
    (0xFEF5, "\u0644\u0622|\u0644\u0622|\u0644\u0623|\u0644\u0623|\u0644\u0625"),
    (0xFEFA, "\u0644\u0625|\u0644\u0627|\u0644\u0627"), (0xFFE3, " \u0304"),
    (0x1D15E, "𝅗𝅥|𝅘𝅥|𝅘𝅥𝅮|𝅘𝅥𝅯|𝅘𝅥𝅰|𝅘𝅥𝅱|𝅘𝅥𝅲"), (0x1D1BB, "𝆹𝅥|𝆺𝅥|𝆹𝅥𝅮|𝆺𝅥𝅮|𝆹𝅥𝅯|𝆺𝅥𝅯"),
    (0x1F101, "0,|1,|2,|3,|4,|5,|6,|7,|8,|9,"),
    (0x1F110, "(a)|(b)|(c)|(d)|(e)|(f)|(g)|(h)|(i)|(j)|(k)|(l)|(m)|(n)|(o)|(p)|(q)|(r)|(s)"),
    (0x1F123, "(t)|(u)|(v)|(w)|(x)|(y)|(z)|〔s〕"), (0x1F12D, "cd|wz"),
    (0x1F14A, "hv|mv|sd|ss|ppv|wc"), (0x1F16A, "mc|md|mr"), (0x1F190, "dj"), (0x1F200, "ほか|ココ"),
    (0x1F240, "〔本〕|〔三〕|〔二〕|〔安〕|〔点〕|〔打〕|〔盗〕|〔勝〕|〔敗〕")]

/-- What a character stands for by the ranges that move. -/
def inMoved? (n : Nat) : Option Char :=
  (moved.find? fun (first, last, _) => first ≤ n && n ≤ last).map fun (first, _, target) =>
    Char.ofNat (target + (n - first))

/-- What a character stands for by the ranges of capital and small letters in turn. -/
def inPaired? (n : Nat) : Option Char :=
  (paired.find? fun (first, last) => first ≤ n && n ≤ last && n % 2 == first % 2).map fun _ =>
    Char.ofNat (n + 1)

/-- What a character stands for by the rows of single characters. -/
def inSpelled? (n : Nat) : Option Char :=
  spelled.findSome? fun (first, row) => if first ≤ n then row.toList[n - first]? else none

/-- What a character stands for by the rows of several characters. -/
def inExpanded? (n : Nat) : Option (List Char) :=
  expanded.findSome? fun (first, row) =>
    if first ≤ n then (row.toList.splitOn '|')[n - first]? else none

/-- What a character stands for, unless it stands for itself. -/
def of? (c : Char) : Option (List Char) :=
  let n := c.toNat
  (inExpanded? n).or
    ((((inMoved? n).or (inPaired? n)).or (inSpelled? n)).bind fun d =>
      if d = c then none else some [d])

end TenantSync.Domain.Replacement
