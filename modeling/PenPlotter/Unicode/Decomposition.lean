import PenPlotter.Unicode.Run

/-! # Canonical decompositions

The characters that mean the same as others.  Most stand for two characters, and text is written
with the single one; some stand for one or more characters with which text is written instead.
Syllables of Hangul, whose parts follow from their numbers, are not listed. -/

namespace PenPlotter.Unicode

/-- The characters that two others make up, the second of which is always the same. -/
structure Composites where
  second : Nat
  /-- The first ones, each followed by what it makes with the second one. -/
  pairs : String

/-- The characters that two others make up. -/
def composites : List Composites := [
    ⟨0x300, "AÀEÈIÌNǸOÒUÙWẀYỲaàeèiìnǹoòuùwẁyỳ¨῭ÂẦÊỀÔỒÜǛâầêềôồüǜĂẰăằĒḔēḕŌṐōṑƠỜơờƯỪưừΑᾺΕῈΗῊΙῚ"⟩,
    ⟨0x300, "ΟῸΥῪΩῺαὰεὲηὴιὶοὸυὺωὼϊῒϋῢЕЀИЍеѐиѝἀἂἁἃἈἊἉἋἐἒἑἓἘἚἙἛἠἢἡἣἨἪἩἫἰἲἱἳἸἺἹἻὀὂὁὃὈὊὉὋὐὒὑὓὙὛ"⟩,
    ⟨0x300, "ὠὢὡὣὨὪὩὫ᾿῍῾῝"⟩,
    ⟨0x301, "AÁCĆEÉGǴIÍKḰLĹMḾNŃOÓPṔRŔSŚUÚWẂYÝZŹaácćeégǵiíkḱlĺmḿnńoópṕrŕsśuúwẃyýzź¨΅ÂẤÅǺÆǼÇḈ"⟩,
    ⟨0x301, "ÊẾÏḮÔỐÕṌØǾÜǗâấåǻæǽçḉêếïḯôốõṍøǿüǘĂẮăắĒḖēḗŌṒōṓŨṸũṹƠỚơớƯỨưứΑΆΕΈΗΉΙΊΟΌΥΎΩΏαάεέηήιί"⟩,
    ⟨0x301, "οόυύωώϊΐϋΰϒϓГЃКЌгѓкќἀἄἁἅἈἌἉἍἐἔἑἕἘἜἙἝἠἤἡἥἨἬἩἭἰἴἱἵἸἼἹἽὀὄὁὅὈὌὉὍὐὔὑὕὙὝὠὤὡὥὨὬὩὭ᾿῎῾῞"⟩,
    ⟨0x302, "AÂCĈEÊGĜHĤIÎJĴOÔSŜUÛWŴYŶZẐaâcĉeêgĝhĥiîjĵoôsŝuûwŵyŷzẑẠẬạậẸỆẹệỌỘọộ"⟩,
    ⟨0x303, "AÃEẼIĨNÑOÕUŨVṼYỸaãeẽiĩnñoõuũvṽyỹÂẪÊỄÔỖâẫêễôỗĂẴăẵƠỠơỡƯỮưữ"⟩,
    ⟨0x304, "AĀEĒGḠIĪOŌUŪYȲaāeēgḡiīoōuūyȳÄǞÆǢÕȬÖȪÜǕäǟæǣõȭöȫüǖǪǬǫǭȦǠȧǡȮȰȯȱΑᾹΙῙΥῩαᾱιῑυῡИӢУӮиӣ"⟩,
    ⟨0x304, "уӯḶḸḷḹṚṜṛṝ"⟩,
    ⟨0x306, "AĂEĔGĞIĬOŎUŬaăeĕgğiĭoŏuŭȨḜȩḝΑᾸΙῘΥῨαᾰιῐυῠАӐЕӖЖӁИЙУЎаӑеӗжӂийуўẠẶạặ"⟩,
    ⟨0x307, "AȦBḂCĊDḊEĖFḞGĠHḢIİMṀNṄOȮPṖRṘSṠTṪWẆXẊYẎZŻaȧbḃcċdḋeėfḟgġhḣmṁnṅoȯpṗrṙsṡtṫwẇxẋyẏzż"⟩,
    ⟨0x307, "ŚṤśṥŠṦšṧſẛṢṨṣṩ𐗒𐗉𐗚𐗤"⟩,
    ⟨0x308, "AÄEËHḦIÏOÖUÜWẄXẌYŸaäeëhḧiïoötẗuüwẅxẍyÿÕṎõṏŪṺūṻΙΪΥΫιϊυϋϒϔІЇАӒЕЁЖӜЗӞИӤОӦУӰЧӴЫӸЭӬ"⟩,
    ⟨0x308, "аӓеёжӝзӟиӥоӧуӱчӵыӹэӭіїӘӚәӛӨӪөӫ"⟩,
    ⟨0x309, "AẢEẺIỈOỎUỦYỶaảeẻiỉoỏuủyỷÂẨÊỂÔỔâẩêểôổĂẲăẳƠỞơởƯỬưử"⟩,
    ⟨0x30A, "AÅUŮaåuůwẘyẙ"⟩,
    ⟨0x30B, "OŐUŰoőuűУӲуӳ"⟩,
    ⟨0x30C, "AǍCČDĎEĚGǦHȞIǏKǨLĽNŇOǑRŘSŠTŤUǓZŽaǎcčdďeěgǧhȟiǐjǰkǩlľnňoǒrřsštťuǔzžÜǙüǚƷǮʒǯ"⟩,
    ⟨0x30F, "AȀEȄIȈOȌRȐUȔaȁeȅiȉoȍrȑuȕѴѶѵѷ"⟩,
    ⟨0x311, "AȂEȆIȊOȎRȒUȖaȃeȇiȋoȏrȓuȗ"⟩,
    ⟨0x313, "ΑἈΕἘΗἨΙἸΟὈΩὨαἀεἐηἠιἰοὀρῤυὐωὠ"⟩,
    ⟨0x314, "ΑἉΕἙΗἩΙἹΟὉΡῬΥὙΩὩαἁεἑηἡιἱοὁρῥυὑωὡ"⟩,
    ⟨0x31B, "OƠUƯoơuư"⟩,
    ⟨0x323, "AẠBḄDḌEẸHḤIỊKḲLḶMṂNṆOỌRṚSṢTṬUỤVṾWẈYỴZẒaạbḅdḍeẹhḥiịkḳlḷmṃnṇoọrṛsṣtṭuụvṿwẉyỵzẓƠỢ"⟩,
    ⟨0x323, "ơợƯỰưự"⟩,
    ⟨0x324, "UṲuṳ"⟩,
    ⟨0x325, "AḀaḁ"⟩,
    ⟨0x326, "SȘTȚsștț"⟩,
    ⟨0x327, "CÇDḐEȨGĢHḨKĶLĻNŅRŖSŞTŢcçdḑeȩgģhḩkķlļnņrŗsştţ"⟩,
    ⟨0x328, "AĄEĘIĮOǪUŲaąeęiįoǫuų"⟩,
    ⟨0x32D, "DḒEḘLḼNṊTṰUṶdḓeḙlḽnṋtṱuṷ"⟩,
    ⟨0x32E, "HḪhḫ"⟩,
    ⟨0x330, "EḚIḬUṴeḛiḭuṵ"⟩,
    ⟨0x331, "BḆDḎKḴLḺNṈRṞTṮZẔbḇdḏhẖkḵlḻnṉrṟtṯzẕ"⟩,
    ⟨0x338, "<≮=≠>≯←↚→↛↔↮⇐⇍⇒⇏⇔⇎∃∄∈∉∋∌∣∤∥∦∼≁≃≄≅≇≈≉≍≭≡≢≤≰≥≱≲≴≳≵≶≸≷≹≺⊀≻⊁≼⋠≽⋡⊂⊄⊃⊅⊆⊈⊇⊉⊑⋢⊒⋣⊢⊬⊨⊭⊩⊮"⟩,
    ⟨0x338, "⊫⊯⊲⋪⊳⋫⊴⋬⊵⋭"⟩,
    ⟨0x342, "¨῁αᾶηῆιῖυῦωῶϊῗϋῧἀἆἁἇἈἎἉἏἠἦἡἧἨἮἩἯἰἶἱἷἸἾἹἿὐὖὑὗὙὟὠὦὡὧὨὮὩὯ᾿῏῾῟"⟩,
    ⟨0x345, "ΑᾼΗῌΩῼάᾴήῄαᾳηῃωῳώῴἀᾀἁᾁἂᾂἃᾃἄᾄἅᾅἆᾆἇᾇἈᾈἉᾉἊᾊἋᾋἌᾌἍᾍἎᾎἏᾏἠᾐἡᾑἢᾒἣᾓἤᾔἥᾕἦᾖἧᾗἨᾘἩᾙἪᾚἫᾛἬᾜἭᾝ"⟩,
    ⟨0x345, "ἮᾞἯᾟὠᾠὡᾡὢᾢὣᾣὤᾤὥᾥὦᾦὧᾧὨᾨὩᾩὪᾪὫᾫὬᾬὭᾭὮᾮὯᾯὰᾲὴῂὼῲᾶᾷῆῇῶῷ"⟩,
    ⟨0x653, "\u0627\u0622"⟩,
    ⟨0x654, "\u0627\u0623\u0648\u0624\u064a\u0626\u06c1\u06c2\u06d2\u06d3\u06d5\u06c0"⟩,
    ⟨0x655, "\u0627\u0625"⟩,
    ⟨0x93C, "नऩरऱळऴ"⟩,
    ⟨0x9BE, "\u09c7\u09cb"⟩,
    ⟨0x9D7, "\u09c7\u09cc"⟩,
    ⟨0xB3E, "\u0b47\u0b4b"⟩,
    ⟨0xB56, "\u0b47\u0b48"⟩,
    ⟨0xB57, "\u0b47\u0b4c"⟩,
    ⟨0xBBE, "\u0bc6\u0bca\u0bc7\u0bcb"⟩,
    ⟨0xBD7, "ஒஔ\u0bc6\u0bcc"⟩,
    ⟨0xC56, "\u0c46\u0c48"⟩,
    ⟨0xCC2, "\u0cc6\u0cca"⟩,
    ⟨0xCD5, "\u0cbf\u0cc0\u0cc6\u0cc7\u0cca\u0ccb"⟩,
    ⟨0xCD6, "\u0cc6\u0cc8"⟩,
    ⟨0xD3E, "\u0d46\u0d4a\u0d47\u0d4b"⟩,
    ⟨0xD57, "\u0d46\u0d4c"⟩,
    ⟨0xDCA, "\u0dd9\u0dda\u0ddc\u0ddd"⟩,
    ⟨0xDCF, "\u0dd9\u0ddc"⟩,
    ⟨0xDDF, "\u0dd9\u0dde"⟩,
    ⟨0x102E, "ဥဦ"⟩,
    ⟨0x1B35, "ᬅᬆᬇᬈᬉᬊᬋᬌᬍᬎᬑᬒ\u1b3a\u1b3b\u1b3c\u1b3d\u1b3e\u1b40\u1b3f\u1b41\u1b42\u1b43"⟩,
    ⟨0x3099, "うゔかがきぎくぐけげこごさざしじすずせぜそぞただちぢつづてでとどはばひびふぶ"⟩,
    ⟨0x3099, "へべほぼゝゞウヴカガキギクグケゲコゴサザシジスズセゼソゾタダチヂツヅテデトド"⟩,
    ⟨0x3099, "ハバヒビフブヘベホボワヷヰヸヱヹヲヺヽヾ"⟩,
    ⟨0x309A, "はぱひぴふぷへぺほぽハパヒピフプヘペホポ"⟩,
    ⟨0x110BA, "𑂙𑂚𑂛𑂜𑂥𑂫"⟩,
    ⟨0x11127, "𑄱𑄮𑄲𑄯"⟩,
    ⟨0x1133E, "𑍇𑍋"⟩,
    ⟨0x11357, "𑍇𑍌"⟩,
    ⟨0x113B8, "𑏅𑎸"⟩,
    ⟨0x113BB, "𑎄𑎅"⟩,
    ⟨0x113C2, "𑎋𑎎𑏅𑏂"⟩,
    ⟨0x113C9, "𑎂𑎃𑎐𑎑𑏅𑏉"⟩,
    ⟨0x114B0, "𑒹𑒼"⟩,
    ⟨0x114BA, "𑒹𑒻"⟩,
    ⟨0x114BD, "𑒹𑒾"⟩,
    ⟨0x115AF, "𑖸𑖺𑖹𑖻"⟩,
    ⟨0x11930, "𑤵𑤸"⟩,
    ⟨0x1611E, "𖄡𖄞"⟩,
    ⟨0x1611F, "𖄦𖄡𖄦𖄢𖄧𖄩𖄤"⟩,
    ⟨0x16120, "𖄨𖄡𖄨"⟩,
    ⟨0x16129, "𖄡𖄩"⟩,
    ⟨0x16D67, "𖵣𖵪𖵨𖵩𖵪"⟩]

/-- The characters for which always another one is written. -/
def substitutes : List Run := [
    ⟨0x340, 1, "\u0300\u0301"⟩,
    ⟨0x343, 1, "\u0313"⟩,
    ⟨0x374, 1, "ʹ"⟩,
    ⟨0x37E, 1, ";"⟩,
    ⟨0x387, 1, "·"⟩,
    ⟨0x1F71, 2, "άέήίόύώ"⟩,
    ⟨0x1FBB, 1, "Ά"⟩,
    ⟨0x1FBE, 1, "ι"⟩,
    ⟨0x1FC9, 2, "ΈΉ"⟩,
    ⟨0x1FD3, 1, "ΐ"⟩,
    ⟨0x1FDB, 1, "Ί"⟩,
    ⟨0x1FE3, 1, "ΰ"⟩,
    ⟨0x1FEB, 1, "Ύ"⟩,
    ⟨0x1FEE, 1, "΅`"⟩,
    ⟨0x1FF9, 2, "ΌΏ´"⟩,
    ⟨0x2000, 1, "\u2002\u2003"⟩,
    ⟨0x2126, 1, "Ω"⟩,
    ⟨0x212A, 1, "KÅ"⟩,
    ⟨0x2329, 1, "〈〉"⟩,
    ⟨0xF900, 1, "豈更車賈滑串句龜龜契金喇奈懶癩羅蘿螺裸邏樂洛烙珞落酪駱亂卵欄爛蘭鸞嵐濫藍襤拉"⟩,
    ⟨0xF926, 1, "臘蠟廊朗浪狼郎來冷勞擄櫓爐盧老蘆虜路露魯鷺碌祿綠菉錄鹿論壟弄籠聾牢磊賂雷壘屢"⟩,
    ⟨0xF94C, 1, "樓淚漏累縷陋勒肋凜凌稜綾菱陵讀拏樂諾丹寧怒率異北磻便復不泌數索參塞省葉說殺辰"⟩,
    ⟨0xF972, 1, "沈拾若掠略亮兩凉梁糧良諒量勵呂女廬旅濾礪閭驪麗黎力曆歷轢年憐戀撚漣煉璉秊練聯"⟩,
    ⟨0xF998, 1, "輦蓮連鍊列劣咽烈裂說廉念捻殮簾獵令囹寧嶺怜玲瑩羚聆鈴零靈領例禮醴隸惡了僚寮尿"⟩,
    ⟨0xF9BE, 1, "料樂燎療蓼遼龍暈阮劉杻柳流溜琉留硫紐類六戮陸倫崙淪輪律慄栗率隆利吏履易李梨泥"⟩,
    ⟨0xF9E4, 1, "理痢罹裏裡里離匿溺吝燐璘藺隣鱗麟林淋臨立笠粒狀炙識什茶刺切度拓糖宅洞暴輻行降"⟩,
    ⟨0xFA0A, 1, "見廓兀嗀"⟩,
    ⟨0xFA10, 2, "塚晴"⟩,
    ⟨0xFA15, 1, "凞猪益礼神祥福靖精羽"⟩,
    ⟨0xFA20, 2, "蘒諸"⟩,
    ⟨0xFA25, 1, "逸都"⟩,
    ⟨0xFA2A, 1, "飯飼館鶴郞隷侮僧免勉勤卑喝嘆器塀墨層屮悔慨憎懲敏既暑梅海渚漢煮爫琢碑社祉祈祐"⟩,
    ⟨0xFA50, 1, "祖祝禍禎穀突節練縉繁署者臭艹艹著褐視謁謹賓贈辶逸難響頻恵𤋮舘"⟩,
    ⟨0xFA70, 1, "並况全侀充冀勇勺喝啕喙嗢塚墳奄奔婢嬨廒廙彩徭惘慎愈憎慠懲戴揄搜摒敖晴朗望杖歹"⟩,
    ⟨0xFA96, 1, "殺流滛滋漢瀞煮瞧爵犯猪瑱甆画瘝瘟益盛直睊着磌窱節类絛練缾者荒華蝹襁覆視調諸請"⟩,
    ⟨0xFABC, 1, "謁諾諭謹變贈輸遲醙鉶陼難靖韛響頋頻鬒龜𢡊𢡄𣏕㮝䀘䀹𥉉𥳐𧻓齃龎"⟩,
    ⟨0x2F800, 1, "丽丸乁𠄢你侮侻倂偺備僧像㒞𠘺免兔兤具𠔜㒹內再𠕋冗冤仌冬况𩇟凵刃㓟刻剆割剷㔕勇"⟩,
    ⟨0x2F826, 1, "勉勤勺包匆北卉卑博即卽卿卿卿𠨬灰及叟𠭣叫叱吆咞吸呈周咢哶唐啓啣善善喙喫喳嗂圖"⟩,
    ⟨0x2F84C, 1, "嘆圗噑噴切壮城埴堍型堲報墬𡓤売壷夆多夢奢𡚨𡛪姬娛娧姘婦㛮㛼嬈嬾嬾𡧈寃寘寧寳𡬘"⟩,
    ⟨0x2F872, 1, "寿将当尢㞁屠屮峀岍𡷤嵃𡷦嵮嵫嵼巡巢㠯巽帨帽幩㡢𢆃㡼庰庳庶廊𪎒廾𢌱𢌱舁弢弢㣇𣊸"⟩,
    ⟨0x2F898, 1, "𦇚形彫㣣徚忍志忹悁㤺㤜悔𢛔惇慈慌慎慌慺憎憲憤憯懞懲懶成戛扝抱拔捐𢬌挽拼捨掃揤"⟩,
    ⟨0x2F8BE, 1, "𢯱搢揅掩㨮摩摾撝摷㩬敏敬𣀊旣書晉㬙暑㬈㫤冒冕最暜肭䏙朗望朡杞杓𣏃㭉柺枅桒梅𣑭"⟩,
    ⟨0x2F8E4, 1, "梎栟椔㮝楂榣槪檨𣚣櫛㰘次𣢧歔㱎歲殟殺殻𣪍𡴋𣫺汎𣲼沿泍汧洖派海流浩浸涅𣴞洴港湮"⟩,
    ⟨0x2F90A, 1, "㴳滋滇𣻑淹潮𣽞𣾎濆瀹瀞瀛㶖灊災灷炭𠔥煅𤉣熜𤎫爨爵牐𤘈犀犕𤜵𤠔獺王㺬玥㺸㺸瑇瑜"⟩,
    ⟨0x2F930, 1, "瑱璅瓊㼛甤𤰶甾𤲒異𢆟瘐𤾡𤾸𥁄㿼䀈直𥃳𥃲𥄙𥄳眞真真睊䀹瞋䁆䂖𥐝硎碌磌䃣𥘦祖𥚚𥛅"⟩,
    ⟨0x2F956, 1, "福秫䄯穀穊穏𥥼𥪧𥪧竮䈂𥮫篆築䈧𥲀糒䊠糨糣紀𥾆絣䌁緇縂繅䌴𦈨𦉇䍙𦋙罺𦌾羕翺者𦓚"⟩,
    ⟨0x2F97C, 1, "𦔣聠𦖨聰𣍟䏕育脃䐋脾媵𦞧𦞵𣎓𣎜舁舄辞䑫芑芋芝劳花芳芽苦𦬼若茝荣莭茣莽菧著荓菊"⟩,
    ⟨0x2F9A2, 1, "菌菜𦰶𦵫𦳕䔫蓱蓳蔖𧏊蕤𦼬䕝䕡𦾱𧃒䕫虐虜虧虩蚩蚈蜎蛢蝹蜨蝫螆䗗蟡蠁䗹衠衣𧙧裗裞"⟩,
    ⟨0x2F9C8, 1, "䘵裺㒻𧢮𧥦䚾䛇誠諭變豕𧲨貫賁贛起𧼯𠠄跋趼跰𠣞軔輸𨗒𨗭邔郱鄑𨜮鄛鈸鋗鋘鉼鏹鐕𨯺"⟩,
    ⟨0x2F9EE, 1, "開䦕閷𨵷䧦雃嶲霣𩅅𩈚䩮䩶韠𩐊䪲𩒖頋頋頩𩖶飢䬳餩馧駂駾䯎𩬰鬒鱀鳽䳎䳭鵧𪃎䳸𪄅𪈎"⟩,
    ⟨0x2FA14, 1, "𪊑麻䵖黹黾鼅鼏鼖鼻𪘀"⟩]

/-- The characters for which always several others are written. -/
def spellings : List Run := [
    ⟨0x344, 1, "\u0308\u0301"⟩,
    ⟨0x958, 1, "क\u093c ख\u093c ग\u093c ज\u093c ड\u093c ढ\u093c फ\u093c य\u093c"⟩,
    ⟨0x9DC, 1, "ড\u09bc ঢ\u09bc"⟩,
    ⟨0x9DF, 1, "য\u09bc"⟩,
    ⟨0xA33, 1, "ਲ\u0a3c"⟩,
    ⟨0xA36, 1, "ਸ\u0a3c"⟩,
    ⟨0xA59, 1, "ਖ\u0a3c ਗ\u0a3c ਜ\u0a3c"⟩,
    ⟨0xA5E, 1, "ਫ\u0a3c"⟩,
    ⟨0xB5C, 1, "ଡ\u0b3c ଢ\u0b3c"⟩,
    ⟨0xF43, 1, "ག\u0fb7"⟩,
    ⟨0xF4D, 1, "ཌ\u0fb7"⟩,
    ⟨0xF52, 1, "ད\u0fb7"⟩,
    ⟨0xF57, 1, "བ\u0fb7"⟩,
    ⟨0xF5C, 1, "ཛ\u0fb7"⟩,
    ⟨0xF69, 1, "ཀ\u0fb5"⟩,
    ⟨0xF73, 1, "\u0f71\u0f72"⟩,
    ⟨0xF75, 1, "\u0f71\u0f74 \u0fb2\u0f80"⟩,
    ⟨0xF78, 1, "\u0fb3\u0f80"⟩,
    ⟨0xF81, 1, "\u0f71\u0f80"⟩,
    ⟨0xF93, 1, "\u0f92\u0fb7"⟩,
    ⟨0xF9D, 1, "\u0f9c\u0fb7"⟩,
    ⟨0xFA2, 1, "\u0fa1\u0fb7"⟩,
    ⟨0xFA7, 1, "\u0fa6\u0fb7"⟩,
    ⟨0xFAC, 1, "\u0fab\u0fb7"⟩,
    ⟨0xFB9, 1, "\u0f90\u0fb5"⟩,
    ⟨0x2ADC, 1, "⫝\u0338"⟩,
    ⟨0xFB1D, 2, "\u05d9\u05b4 \u05f2\u05b7"⟩,
    ⟨0xFB2A, 1, "\u05e9\u05c1 \u05e9\u05c2 \u05e9\u05bc\u05c1 \u05e9\u05bc\u05c2 \u05d0\u05b7"⟩,
    ⟨0xFB2F, 1, "\u05d0\u05b8 \u05d0\u05bc \u05d1\u05bc \u05d2\u05bc \u05d3\u05bc"⟩,
    ⟨0xFB34, 1, "\u05d4\u05bc \u05d5\u05bc \u05d6\u05bc"⟩,
    ⟨0xFB38, 1, "\u05d8\u05bc \u05d9\u05bc \u05da\u05bc \u05db\u05bc \u05dc\u05bc"⟩,
    ⟨0xFB3E, 1, "\u05de\u05bc"⟩,
    ⟨0xFB40, 1, "\u05e0\u05bc \u05e1\u05bc"⟩,
    ⟨0xFB43, 1, "\u05e3\u05bc \u05e4\u05bc"⟩,
    ⟨0xFB46, 1, "\u05e6\u05bc \u05e7\u05bc \u05e8\u05bc \u05e9\u05bc \u05ea\u05bc"⟩,
    ⟨0xFB4B, 1, "\u05d5\u05b9 \u05d1\u05bf \u05db\u05bf \u05e4\u05bf"⟩,
    ⟨0x1D15E, 1, "𝅗𝅥 𝅘𝅥 𝅘𝅥𝅮 𝅘𝅥𝅯 𝅘𝅥𝅰 𝅘𝅥𝅱 𝅘𝅥𝅲"⟩,
    ⟨0x1D1BB, 1, "𝆹𝅥 𝆺𝅥 𝆹𝅥𝅮 𝆺𝅥𝅮 𝆹𝅥𝅯 𝆺𝅥𝅯"⟩]

end PenPlotter.Unicode
