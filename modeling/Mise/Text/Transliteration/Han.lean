/-!
# Readings of Han Characters

A Han character is spelled by its Mandarin reading without tones and followed by a space, so that
neighbouring characters stay apart as words. The table lists each reading once, with the
characters in common use that are read so.

## Main definitions

* `hanReadings`: Each reading with its characters.
* `han?`: The spelling of a Han character.
-/

namespace Mise

namespace Transliteration

/-- A reading without tones, and the characters read so. -/
def hanReadings : List (String × String) := [
  ("A", "啊阿"),
  ("Ai", "埃挨哎唉哀皑癌蔼矮艾碍爱隘"),
  ("An", "鞍氨安俺按暗岸胺案"),
  ("Ang", "肮昂盎"),
  ("Ao", "凹敖熬翱袄傲奥懊澳"),
  ("Ba", "芭捌扒叭吧笆八疤巴拔跋靶把耙坝霸罢爸"),
  ("Bai", "白柏百摆佰败拜稗"),
  ("Ban", "斑班搬扳般颁板版扮拌伴瓣半办绊"),
  ("Bang", "邦帮梆榜膀绑棒磅蚌镑傍谤"),
  ("Bao", "苞胞包褒剥薄雹保堡饱宝抱报暴豹鲍爆鮑寶"),
  ("Bei", "杯碑悲卑北辈背贝钡倍狈备惫焙被貝"),
  ("Ben", "奔苯本笨"),
  ("Beng", "崩绷甭泵蹦迸"),
  ("Bi", "逼鼻比鄙笔彼碧蓖蔽毕毙毖币庇痹闭敝弊必辟壁臂避陛"),
  ("Bian", "鞭边编贬扁便变卞辨辩辫遍"),
  ("Biao", "标彪膘表"),
  ("Bie", "鳖憋别瘪"),
  ("Bin", "彬斌濒滨宾摈"),
  ("Bing", "兵冰柄丙秉饼炳病并餅"),
  ("Bo", "玻菠播拨钵波博勃搏铂箔伯帛舶脖膊渤泊驳捕卜蔔餑"),
  ("Bu", "哺补埠不布步簿部怖"),
  ("Ca", "擦"),
  ("Cai", "猜裁材才财睬踩采彩菜蔡財"),
  ("Can", "餐参蚕残惭惨灿蠶"),
  ("Cang", "苍舱仓沧藏"),
  ("Cao", "操糙槽曹草"),
  ("Ce", "厕策侧册测"),
  ("Ceng", "层蹭噌"),
  ("Cha", "插叉茬茶查碴搽察岔差诧搾"),
  ("Chai", "拆柴豺"),
  ("Chan", "搀掺蝉馋谗缠铲产阐颤"),
  ("Chang", "昌猖场尝常长偿肠厂敞畅唱倡長腸場"),
  ("Chao", "超抄钞朝嘲潮巢吵炒"),
  ("Che", "车扯撤掣彻澈車"),
  ("Chen", "郴臣辰尘晨忱沉陈趁衬"),
  ("Cheng", "撑称城橙成呈乘程惩澄诚承逞骋秤"),
  ("Chi", "吃痴持匙池迟弛驰耻齿侈尺赤翅斥炽"),
  ("Chong", "充冲虫崇宠"),
  ("Chou", "抽酬畴踌稠愁筹仇绸瞅丑臭"),
  ("Chu", "初出橱厨躇锄雏滁除楚础储矗搐触处"),
  ("Chuai", "揣"),
  ("Chuan", "川穿椽传船喘串"),
  ("Chuang", "疮窗幢床闯创"),
  ("Chui", "吹炊捶锤垂"),
  ("Chun", "春椿醇唇淳纯蠢"),
  ("Chuo", "戳绰"),
  ("Ci", "疵茨磁雌辞慈瓷词此刺赐次"),
  ("Cong", "聪葱囱匆从丛蔥"),
  ("Cou", "凑"),
  ("Cu", "粗醋簇促"),
  ("Cuan", "蹿篡窜"),
  ("Cui", "摧崔催脆瘁粹淬翠"),
  ("Cun", "村存寸"),
  ("Cuo", "磋撮搓措挫错"),
  ("Da", "搭达答瘩打大"),
  ("Dai", "呆歹傣戴带殆代贷袋待逮怠"),
  ("Dan", "耽担丹单郸掸胆旦氮但惮淡诞弹蛋單彈"),
  ("Dang", "当挡党荡档"),
  ("Dao", "刀捣蹈倒岛祷导到稻悼道盗"),
  ("De", "德得的"),
  ("Deng", "蹬灯登等瞪凳邓"),
  ("Di", "堤低滴迪敌笛狄涤翟嫡抵底地蒂第帝弟递缔"),
  ("Dian", "颠掂滇碘点典靛垫电佃甸店惦奠淀殿點電"),
  ("Diao", "碉叼雕凋刁掉吊钓调鯛"),
  ("Die", "跌爹碟蝶迭谍叠"),
  ("Ding", "丁盯叮钉顶鼎锭定订"),
  ("Diu", "丢"),
  ("Dong", "东冬董懂动栋侗恫冻洞東凍"),
  ("Dou", "兜抖斗陡豆逗痘荳"),
  ("Du", "都督毒犊独读堵睹赌杜镀肚度渡妒"),
  ("Duan", "端短锻段断缎"),
  ("Dui", "堆兑队对"),
  ("Dun", "墩吨蹲敦顿囤钝盾遁燉"),
  ("Duo", "掇哆多夺垛躲朵跺舵剁惰堕"),
  ("E", "蛾峨鹅俄额讹娥恶厄扼遏鄂饿鵝"),
  ("En", "恩"),
  ("Er", "而儿耳尔饵洱二贰"),
  ("Fa", "发罚筏伐乏阀法珐"),
  ("Fan", "藩帆番翻樊矾钒繁凡烦反返范贩犯饭泛飯"),
  ("Fang", "坊芳方肪房防妨仿访纺放"),
  ("Fei", "菲非啡飞肥匪诽吠肺废沸费"),
  ("Fen", "芬酚吩氛分纷坟焚汾粉奋份忿愤粪"),
  ("Feng", "丰封枫蜂峰锋风疯烽逢冯缝讽奉凤鳳風鋒"),
  ("Fo", "佛"),
  ("Fou", "否"),
  ("Fu",
    "夫敷肤孵扶拂辐幅氟符伏俘服浮涪福袱弗甫抚辅俯釜斧脯腑府腐赴副覆赋复傅付阜父腹负富讣附妇缚咐"),
  ("Ga", "噶嘎"),
  ("Gai", "该改概钙盖溉"),
  ("Gan", "干甘杆柑竿肝赶感秆敢赣趕"),
  ("Gang", "冈刚钢缸肛纲岗港杠"),
  ("Gao", "篙皋高膏羔糕搞镐稿告"),
  ("Ge", "哥歌搁戈鸽胳疙割革葛格蛤阁隔铬个各"),
  ("Gei", "给"),
  ("Gen", "根跟"),
  ("Geng", "耕更庚羹埂耿梗"),
  ("Gong", "工攻功恭龚供躬公宫弓巩汞拱贡共"),
  ("Gou", "钩勾沟苟狗垢构购够"),
  ("Gu", "辜菇咕箍估沽孤姑鼓古蛊骨谷股故顾固雇"),
  ("Gua", "刮瓜剐寡挂褂"),
  ("Guai", "乖拐怪"),
  ("Guan", "棺关官冠观管馆罐惯灌贯關館"),
  ("Guang", "光广逛廣広"),
  ("Gui", "瑰规圭硅归龟闺轨鬼诡癸桂柜跪贵刽龜亀鮭歸"),
  ("Gun", "辊滚棍"),
  ("Guo", "锅郭国果裹过國鍋菓"),
  ("Ha", "哈"),
  ("Hai", "骸孩海氦亥害骇"),
  ("Han", "酣憨邯韩含涵寒函喊罕翰撼捍旱憾悍焊汗汉"),
  ("Hang", "夯杭航"),
  ("Hao", "壕嚎豪毫郝好耗号浩"),
  ("He", "呵喝荷菏核禾和何合盒貉阂河涸赫褐鹤贺"),
  ("Hei", "嘿黑"),
  ("Hen", "痕很狠恨"),
  ("Heng", "哼亨横衡恒"),
  ("Hong", "轰哄烘虹鸿洪宏弘红紅"),
  ("Hou", "喉侯猴吼厚候后後"),
  ("Hu", "呼乎忽瑚壶葫胡蝴狐糊湖弧虎唬护互沪户"),
  ("Hua", "花哗华猾滑画划化话華畫話"),
  ("Huai", "槐徊怀淮坏"),
  ("Huan", "欢环桓还缓换患唤痪豢焕涣宦幻"),
  ("Huang", "荒慌黄磺蝗簧皇凰惶煌晃幌恍谎黃"),
  ("Hui", "灰挥辉徽恢蛔回毁悔慧卉惠晦贿秽会烩汇讳诲绘會燴"),
  ("Hun", "荤昏婚魂浑混餛"),
  ("Huo", "豁活伙火获或惑霍货祸"),
  ("Ji",
    "击圾基机畸稽积箕肌饥迹激讥鸡姬绩缉吉极棘辑籍集及急疾汲即嫉级挤几脊己蓟技冀季伎祭剂悸济寄寂计记既忌际妓继纪雞鷄鶏機記際"),
  ("Jia", "嘉枷夹佳家加荚颊贾甲钾假稼价架驾嫁"),
  ("Jian", "歼监坚尖笺间煎兼肩艰奸缄茧检柬碱硷拣捡简俭剪减荐槛鉴践贱见键箭件健舰剑饯渐溅涧建間見"),
  ("Jiang", "僵姜将浆江疆蒋桨奖讲匠酱降醬醤薑將"),
  ("Jiao", "蕉椒礁焦胶交郊浇骄娇嚼搅铰矫侥脚狡角饺缴绞剿教酵轿较叫窖餃膠"),
  ("Jie", "揭接皆秸街阶截劫节桔杰捷睫竭洁结解姐戒藉芥界借介疥诫届"),
  ("Jin", "巾筋斤金今津襟紧锦仅谨进靳晋禁近烬浸尽劲進"),
  ("Jing", "荆兢茎睛晶鲸京惊精粳经井警景颈静境敬镜径痉靖竟竞净"),
  ("Jiong", "炯窘"),
  ("Jiu", "揪究纠玖韭久灸九酒厩救旧臼舅咎就疚"),
  ("Ju", "鞠拘狙疽居驹菊局咀矩举沮聚拒据巨具距踞锯俱句惧炬剧"),
  ("Juan", "捐鹃娟倦眷卷绢"),
  ("Jue", "撅攫抉掘倔爵觉决诀绝"),
  ("Jun", "均菌钧军君峻俊竣浚郡骏"),
  ("Ka", "喀咖卡咯"),
  ("Kai", "开揩楷凯慨開"),
  ("Kan", "刊堪勘坎砍看"),
  ("Kang", "康慷糠扛抗亢炕"),
  ("Kao", "考拷烤靠"),
  ("Ke", "坷苛柯棵磕颗科壳咳可渴克刻客课"),
  ("Ken", "肯啃垦恳"),
  ("Keng", "坑吭"),
  ("Kong", "空恐孔控"),
  ("Kou", "抠口扣寇"),
  ("Ku", "枯哭窟苦酷库裤"),
  ("Kua", "夸垮挎跨胯"),
  ("Kuai", "块筷侩快"),
  ("Kuan", "宽款"),
  ("Kuang", "匡筐狂框矿眶旷况"),
  ("Kui", "亏盔岿窥葵奎魁傀馈愧溃"),
  ("Kun", "坤昆捆困"),
  ("Kuo", "括扩廓阔"),
  ("La", "垃拉喇蜡腊辣啦"),
  ("Lai", "莱来赖來"),
  ("Lan", "蓝婪栏拦篮阑兰澜谰揽览懒缆烂滥藍蘭"),
  ("Lang", "琅榔狼廊郎朗浪"),
  ("Lao", "捞劳牢老佬姥酪烙涝"),
  ("Le", "勒乐樂"),
  ("Lei", "雷镭蕾磊累儡垒擂肋类泪"),
  ("Leng", "棱楞冷"),
  ("Li", "厘梨犁黎篱狸离漓理李里鲤礼莉荔吏栗丽厉励砾历利傈例俐痢立粒沥隶力璃哩蠣裡麗鯉"),
  ("Lia", "俩"),
  ("Lian", "联莲连镰廉怜涟帘敛脸链恋炼练蓮連"),
  ("Liang", "粮凉梁粱良两辆量晾亮谅涼兩"),
  ("Liao", "撩聊僚疗燎寥辽潦了撂镣廖料"),
  ("Lie", "列裂烈劣猎"),
  ("Lin", "琳林磷霖临邻鳞淋凛赁吝拎"),
  ("Ling", "玲菱零龄铃伶羚凌灵陵岭领另令"),
  ("Liu", "溜琉榴硫馏留刘瘤流柳六"),
  ("Long", "龙聋咙笼窿隆垄拢陇龍竜"),
  ("Lou", "楼娄搂篓漏陋"),
  ("Lu", "芦卢颅庐炉掳卤虏鲁麓碌露路赂鹿潞禄录陆戮驴吕铝侣旅履屡缕虑氯律率滤绿綠緑滷鱸魯"),
  ("Luan", "峦挛孪滦卵乱"),
  ("Lue", "掠略"),
  ("Lun", "抡轮伦仑沦纶论"),
  ("Luo", "萝螺罗逻锣箩骡裸落洛骆络蘿羅"),
  ("Ma", "妈麻玛码蚂马骂嘛吗馬嗎"),
  ("Mai", "埋买麦卖迈脉麥買賣売"),
  ("Man", "瞒馒蛮满蔓曼慢漫谩饅滿"),
  ("Mang", "芒茫盲氓忙莽"),
  ("Mao", "猫茅锚毛矛铆卯茂冒帽貌贸貓"),
  ("Me", "么"),
  ("Mei", "玫枚梅酶霉煤没眉媒镁每美昧寐妹媚"),
  ("Men", "门闷们門們"),
  ("Meng", "萌蒙檬盟锰猛梦孟"),
  ("Mi", "眯醚靡糜迷谜弥米秘觅泌蜜密幂"),
  ("Mian", "棉眠绵冕免勉娩缅面麵麺"),
  ("Miao", "苗描瞄藐秒渺庙妙"),
  ("Mie", "蔑灭"),
  ("Min", "民抿皿敏悯闽"),
  ("Ming", "明螟鸣铭名命"),
  ("Miu", "谬"),
  ("Mo", "摸摹蘑模膜磨摩魔抹末莫墨默沫漠寞陌"),
  ("Mou", "谋牟某"),
  ("Mu", "拇牡亩姆母墓暮幕募慕木目睦牧穆"),
  ("Na", "拿哪呐钠那娜纳"),
  ("Nai", "氖乃奶耐奈"),
  ("Nan", "南男难"),
  ("Nang", "囊"),
  ("Nao", "挠脑恼闹淖"),
  ("Ne", "呢"),
  ("Nei", "馁内"),
  ("Nen", "嫩"),
  ("Neng", "能"),
  ("Ni", "妮霓倪泥尼拟你匿腻逆溺"),
  ("Nian", "蔫拈年碾撵捻念"),
  ("Niang", "娘酿釀"),
  ("Niao", "鸟尿鳥"),
  ("Nie", "捏聂孽啮镊镍涅"),
  ("Nin", "您"),
  ("Ning", "柠狞凝宁拧泞"),
  ("Niu", "牛扭钮纽"),
  ("Nong", "脓浓农弄"),
  ("Nu", "奴努怒女"),
  ("Nuan", "暖"),
  ("Nue", "虐疟"),
  ("Nuo", "挪懦糯诺"),
  ("O", "哦"),
  ("Ou", "欧鸥殴藕呕偶沤"),
  ("Pa", "啪趴爬帕怕琶"),
  ("Pai", "拍排牌徘湃派"),
  ("Pan", "攀潘盘磐盼畔判叛"),
  ("Pang", "乓庞旁耪胖"),
  ("Pao", "抛咆刨炮袍跑泡"),
  ("Pei", "呸胚培裴赔陪配佩沛"),
  ("Pen", "喷盆"),
  ("Peng", "砰抨烹澎彭蓬棚硼篷膨朋鹏捧碰"),
  ("Pi", "坯砒霹批披劈琵毗啤脾疲皮匹痞僻屁譬"),
  ("Pian", "篇偏片骗"),
  ("Piao", "飘漂瓢票"),
  ("Pie", "撇瞥"),
  ("Pin", "拼频贫品聘頻"),
  ("Ping", "乒坪苹萍平凭瓶评屏蘋"),
  ("Po", "坡泼颇婆破魄迫粕剖"),
  ("Pu", "扑铺仆莆葡菩蒲埔朴圃普浦谱曝瀑"),
  ("Qi", "期欺栖戚妻七凄漆柒沏其棋奇歧畦崎脐齐旗祈祁骑起岂乞企启契砌器气迄弃汽泣讫氣気"),
  ("Qia", "掐恰洽"),
  ("Qian", "牵扦钎铅千迁签仟谦乾黔钱钳前潜遣浅谴堑嵌欠歉"),
  ("Qiang", "枪呛腔羌墙蔷强抢"),
  ("Qiao", "橇锹敲悄桥瞧乔侨巧鞘撬翘峭俏窍"),
  ("Qie", "切茄且怯窃"),
  ("Qin", "钦侵亲秦琴勤芹擒禽寝沁"),
  ("Qing", "青轻氢倾卿清擎晴氰情顷请庆"),
  ("Qiong", "琼穷"),
  ("Qiu", "秋丘邱球求囚酋泅"),
  ("Qu", "趋区蛆曲躯屈驱渠取娶龋趣去"),
  ("Quan", "圈颧权醛泉全痊拳犬券劝"),
  ("Que", "缺炔瘸却鹊榷确雀"),
  ("Qun", "裙群"),
  ("Ran", "然燃冉染"),
  ("Rang", "瓤壤攘嚷让"),
  ("Rao", "饶扰绕"),
  ("Re", "惹热熱"),
  ("Ren", "壬仁人忍韧任认刃妊纫"),
  ("Reng", "扔仍"),
  ("Ri", "日"),
  ("Rong", "戎茸蓉荣融熔溶容绒冗"),
  ("Rou", "揉柔肉"),
  ("Ru", "茹蠕儒孺如辱乳汝入褥"),
  ("Ruan", "软阮"),
  ("Rui", "蕊瑞锐"),
  ("Run", "闰润"),
  ("Ruo", "若弱"),
  ("Sa", "撒洒萨"),
  ("Sai", "腮鳃塞赛"),
  ("San", "三叁伞散"),
  ("Sang", "桑嗓丧"),
  ("Sao", "搔骚扫嫂"),
  ("Se", "瑟色涩"),
  ("Sen", "森"),
  ("Seng", "僧"),
  ("Sha", "莎砂杀刹沙纱傻啥煞"),
  ("Shai", "筛晒"),
  ("Shan", "珊苫杉山删煽衫闪陕擅赡膳善汕扇缮"),
  ("Shang", "墒伤商赏晌上尚裳"),
  ("Shao", "梢捎稍烧芍勺韶少哨邵绍燒焼"),
  ("She", "奢赊蛇舌舍赦摄射慑涉社设"),
  ("Shen", "砷申呻伸身深娠绅神沈审婶甚肾慎渗"),
  ("Sheng", "声生甥牲升绳省盛剩胜圣"),
  ("Shi",
    "师失狮施湿诗尸虱十石拾时什食蚀实识史矢使屎驶始式示士世柿事拭誓逝势是嗜噬适仕侍释饰氏市恃室视试實視飾"),
  ("Shou", "收手首守寿授售受瘦兽壽"),
  ("Shu", "蔬枢梳殊抒输叔舒淑疏书赎孰熟薯暑曙署蜀黍鼠属术述树束戍竖墅庶数漱恕書樹"),
  ("Shua", "刷耍"),
  ("Shuai", "摔衰甩帅"),
  ("Shuan", "栓拴"),
  ("Shuang", "霜双爽"),
  ("Shui", "谁水睡税"),
  ("Shun", "吮瞬顺舜"),
  ("Shuo", "说硕朔烁"),
  ("Si", "斯撕嘶思私司丝死肆寺嗣四伺似饲巳"),
  ("Song", "松耸怂颂送宋讼诵"),
  ("Sou", "搜艘擞"),
  ("Su", "嗽苏酥俗素速粟僳塑溯宿诉肃蘇"),
  ("Suan", "酸蒜算"),
  ("Sui", "虽隋随绥髓碎岁穗遂隧祟"),
  ("Sun", "孙损笋筍"),
  ("Suo", "蓑梭唆缩琐索锁所"),
  ("Ta", "塌他它她塔獭挞蹋踏"),
  ("Tai", "胎苔抬台泰酞太态汰"),
  ("Tan", "坍摊贪瘫滩坛檀痰潭谭谈坦毯袒碳探叹炭罈"),
  ("Tang", "汤塘搪堂棠膛唐糖倘躺淌趟烫湯"),
  ("Tao", "掏涛滔绦萄桃逃淘陶讨套"),
  ("Te", "特"),
  ("Teng", "藤腾疼誊"),
  ("Ti", "梯剔踢锑提题蹄啼体替嚏惕涕剃屉"),
  ("Tian", "天添填田甜恬舔腆"),
  ("Tiao", "挑条迢眺跳"),
  ("Tie", "贴铁帖"),
  ("Ting", "厅听烃汀廷停亭庭挺艇廳"),
  ("Tong", "通桐酮瞳同铜彤童桶捅筒统痛"),
  ("Tou", "偷投头透"),
  ("Tu", "凸秃突图徒途涂屠土吐兔"),
  ("Tuan", "湍团糰團"),
  ("Tui", "推颓腿蜕褪退"),
  ("Tun", "吞屯臀飩"),
  ("Tuo", "拖托脱鸵陀驮驼椭妥拓唾"),
  ("Wa", "挖哇蛙洼娃瓦袜"),
  ("Wai", "歪外"),
  ("Wan", "豌弯湾玩顽丸烷完碗挽晚皖惋宛婉万腕"),
  ("Wang", "汪王亡枉网往旺望忘妄"),
  ("Wei", "威巍微危韦违桅围唯惟为潍维苇萎委伟伪尾纬未蔚味畏胃喂魏位渭谓尉慰卫鮪圍"),
  ("Wen", "瘟温蚊文闻纹吻稳紊问溫問"),
  ("Weng", "嗡翁瓮"),
  ("Wo", "挝蜗涡窝我斡卧握沃"),
  ("Wu", "巫呜钨乌污诬屋无芜梧吾吴毋武五捂午舞伍侮坞戊雾晤物勿务悟误烏"),
  ("Xi", "昔熙析西硒矽晰嘻吸锡牺稀息希悉膝夕惜熄烯溪汐犀檄袭席习媳喜铣洗系隙戏细錫壢"),
  ("Xia", "瞎虾匣霞辖暇峡侠狭下厦夏吓蝦"),
  ("Xian", "掀锨先仙鲜纤咸贤衔舷闲涎弦嫌显险现献县腺馅羡宪陷限线餡鮮鹹"),
  ("Xiang", "相厢镶香箱襄湘乡翔祥详想响享项巷橡像向象鄉響"),
  ("Xiao", "萧硝霄削哮嚣销消宵淆晓小孝校肖啸笑效"),
  ("Xie", "楔些歇蝎鞋协挟携邪斜胁谐写械卸蟹懈泄泻谢屑"),
  ("Xin", "薪芯锌欣辛新忻心信衅"),
  ("Xing", "星腥猩惺兴刑型形邢行醒幸杏性姓"),
  ("Xiong", "兄凶胸匈汹雄熊"),
  ("Xiu", "休修羞朽嗅锈秀袖绣"),
  ("Xu", "墟戌需虚嘘须徐许蓄酗叙旭序畜恤絮婿绪续"),
  ("Xuan", "轩喧宣悬旋玄选癣眩绚"),
  ("Xue", "靴薛学穴雪血鱈學"),
  ("Xun", "勋熏循旬询寻驯巡殉汛训讯逊迅"),
  ("Ya", "压押鸦鸭呀丫芽牙蚜崖衙涯雅哑亚讶鴨壓"),
  ("Yan", "焉咽阉烟淹盐严研蜒岩延言颜阎炎沿奄掩眼衍演艳堰燕厌砚雁唁彦焰宴谚验鹽塩醃嚴顏鹼"),
  ("Yang", "殃央鸯秧杨扬佯疡羊洋阳氧仰痒养样漾養陽"),
  ("Yao", "邀腰妖瑶摇尧遥窑谣姚咬舀药要耀"),
  ("Ye", "椰噎耶爷野冶也页掖业叶曳腋夜液葉"),
  ("Yi",
    "一壹医揖铱依伊衣颐夷遗移仪胰疑沂宜姨彝椅蚁倚已乙矣以艺抑易邑屹亿役臆逸肄疫亦裔意毅忆义益溢诣议谊译异翼翌绎"),
  ("Yin", "茵荫因殷音阴姻吟银淫寅饮尹引隐印飲銀"),
  ("Ying", "英樱婴鹰应缨莹萤营荧蝇迎赢盈影颖硬映"),
  ("Yo", "哟"),
  ("Yong", "拥佣臃痈庸雍踊蛹咏泳涌永恿勇用"),
  ("You", "幽优悠忧尤由邮铀犹油游酉有友右佑釉诱又幼迂"),
  ("Yu",
    "淤于盂榆虞愚舆余俞逾鱼愉渝渔隅予娱雨与屿禹宇语羽玉域芋郁吁遇喻峪御愈欲狱育誉浴寓裕预豫驭魚語禦"),
  ("Yuan", "鸳渊冤元垣袁原援辕园员圆猿源缘远苑愿怨院"),
  ("Yue", "曰约越跃钥岳粤月悦阅"),
  ("Yun", "耘云郧匀陨允运蕴酝晕韵孕雲"),
  ("Za", "匝砸杂雜"),
  ("Zai", "栽哉灾宰载再在"),
  ("Zan", "咱攒暂赞"),
  ("Zang", "赃脏葬"),
  ("Zao", "遭糟凿藻枣早澡蚤躁噪造皂灶燥"),
  ("Ze", "责择则泽"),
  ("Zei", "贼"),
  ("Zen", "怎"),
  ("Zeng", "增憎曾赠"),
  ("Zha", "扎喳渣札轧铡闸眨栅榨咋乍炸诈"),
  ("Zhai", "摘斋宅窄债寨"),
  ("Zhan", "瞻毡詹粘沾盏斩辗崭展蘸栈占战站湛绽"),
  ("Zhang", "樟章彰漳张掌涨杖丈帐账仗胀瘴障張"),
  ("Zhao", "招昭找沼赵照罩兆肇召"),
  ("Zhe", "遮折哲蛰辙者锗蔗这浙"),
  ("Zhen", "珍斟真甄砧臻贞针侦枕疹诊震振镇阵"),
  ("Zheng", "蒸挣睁征狰争怔整拯正政帧症郑证"),
  ("Zhi",
    "芝枝支吱蜘知肢脂汁之织职直植殖执值侄址指止趾只旨纸志挚掷至致置帜峙制智秩稚质炙痔滞治窒製紙"),
  ("Zhong", "中盅忠钟衷终种肿重仲众"),
  ("Zhou", "舟周州洲诌粥轴肘帚咒皱宙昼骤"),
  ("Zhu", "珠株蛛朱猪诸诛逐竹烛煮拄瞩嘱主著柱助蛀贮铸筑住注祝驻豬諸"),
  ("Zhua", "抓爪"),
  ("Zhuai", "拽"),
  ("Zhuan", "专砖转撰赚篆"),
  ("Zhuang", "桩庄装妆撞壮状"),
  ("Zhui", "椎锥追赘坠缀"),
  ("Zhun", "谆准"),
  ("Zhuo", "捉拙卓桌琢茁酌啄着灼浊"),
  ("Zi", "兹咨资姿滋淄孜紫仔籽滓子自渍字"),
  ("Zong", "鬃棕踪宗综总纵粽"),
  ("Zou", "邹走奏揍"),
  ("Zu", "租足卒族祖诅阻组"),
  ("Zuan", "钻纂"),
  ("Zui", "嘴醉最罪"),
  ("Zun", "尊遵"),
  ("Zuo", "昨左佐柞做作坐座")]

/-- The reading of a Han character, followed by a space. -/
def han? (c : Char) : Option String :=
  hanReadings.findSome? fun (reading, characters) =>
    if c ∈ characters.toList then some (reading ++ " ") else none

end Transliteration

end Mise
