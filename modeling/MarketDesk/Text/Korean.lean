import MarketDesk.Text.MultiByte

/-!
# Korean character set

EUC-KR with all syllables: ASCII, and two bytes by an index of syllables, signs and Chinese
characters.
-/

namespace MarketDesk.Text

namespace EucKr

/-- The characters of two bytes. -/
def index : CharIndex := CharIndex.ofText
  "0:갂갃갅갆갋-갏갘갞갟갡갢갣갥-갫갮갲갳갴 20:갵갶갷갺갻갽갾갿걁-걊걌걎-걓걕 40:걖걗걙걚걛걝-걯걲걳걵걶걹걻-걿겂겇겈겍겎겏겑겒겓겕-겛겞겢-겧겫겭겮겱-겷겺겾겿곀곂곃곅곆곇곉
    8D:곊곋곍-곔곖곘-곟곢곣곥곦곩곫곭곮곲곴곷-곻곾곿괁괂괃괅괇-괋괎괐괒-괗괙괚괛괝괞괟괡-괨괪괫괮-괳 DE:괶괷괹괺괻괽-굃굆굈굊-굏굑굒굓굕굖굗 FE:굙-굠굢굤-굫굮굯굱굲굷-굺
    117:굾궀궃-궇궊궋궍궎궏궑-궛궞-궣궥-궶궸-궿귂귃귅귆귇귉-귏귒귔-귛귝귞귟귡귢귣귥-귷귺귻귽귾긂-긇긊긌긎-긓긕-긜 19C:긝-긯긲긳긵긶긹긻긼 1BC:긽긾긿깂깄깇깈깉깋깏깑깒
    1C8:깓깕깗-깛깞깢깣깤깦깧깪깫깭깮깯깱-깷깺깾-꺃꺆-꺋꺍-꺻꺿껁껂껃껅-껋껎껒-껗껚껛껝-껧껩껪껬껮-껳껵껶껷껹껺껻껽-꼅 25A:꼆꼉-꼌꼎꼏꼑-꼣 27A:꼤-꼫꼮꼯꼱꼳꼵-꼻꼾
    28E:꽀꽄-꽇꽊-꽏꽑-꽛꽞-꽣꽦-꽸꽺-꽿꾁꾂꾃꾅꾆꾇꾉-꾏꾒꾓꾔꾖-꾛꾝-꾷꾺꾻꾽꾾꾿꿁-꿆꿊꿌꿏-꿓꿕-꿛꿝-꿡 318:꿢-꿧꿪-꿯꿲꿳꿵꿶꿷꿹-꿿뀂뀃
    338:뀅-뀋뀍뀎뀏뀑뀒뀓뀕-뀛뀞-뀧뀩-끃끆끇끉끋끍끏-끒끖끘끚끛끜끞-끻끾끿낁낂낃낅-낋낎낐낒-낗낛낝낞낣-낧낪낰낲낶낷낹낺낻낽-냃냆냊-냏냒 3D6:냓냕냖냗냙-냟냡-냤냦-냰
    3F6:냱-넇넊넍넎넏넑넔-넗넚넞-넢넦넧넩넪넫넭-넳넶넺-넿녂녃녅녆녇녉-녏녒녓녖녗녙녚녛녝녞녟녡-녷녺녻녽녾녿놁놃-놇놊놌놎-놑놕놖놗놙놚놛놝-놧놩-놸 494:놹-뇋뇍뇎뇏뇑뇒뇓뇕
    4B4:뇖-뇛뇞뇠-뇧뇪뇫뇭뇮뇯뇱-뇸뇺뇼뇾-눃눆눇눉눊눍-눓눖눘눚-눟눡-눳눵-눻눽-뉗뉙뉚뉛뉝뉞뉟뉡-뉧뉪-뉳뉶-뉻뉽-늃늆늇늈늊-늎 552:늏늒늓늕늖늗늛-늟늢늤늧늨늩늫늭늮늯늱늲
    568:늳늵늶늷 572:늸-닇닊닋닍닎닏닑닓-닗닚닜닞-닡닣닧닩닪닰닱닲닶닼닽닾댂댃댅댆댇댉-댏댒댖-댛댝-덓덗덙덚덝덠-덣덦덨덪덬덭덯덲덳덵덶덷덹-덿뎂뎆-뎋뎍
    610:뎎뎏뎑뎒뎓뎕-뎟뎢-뎧뎩뎪뎫뎭 630:뎮-돃돆돇돉돊돍돏돑돒돓돖돘돚돜돞돟돡돢돣돥돦돧돩-돻돽-됏됑-됗됙됚됛됝됞됟됡-됧됪됬-됳됵-둏둒둓둕둖둗둙-둟둢둤둦
    6CE:둧-둫둭-둿뒁뒂 6EE:뒃-뒇뒉-뒜뒞-뒣뒥뒦뒧뒩뒪뒫뒭-뒴뒶뒸뒺-뒿듁듂듃듅듆듇듉-듏듑-듔듖-듛듞듟듡듢듥듧-듫듮듰듲-듷듹-딓딖딗딙딚딝-딣딦딫-딯딲딳딵딶딷딹-딿땂땆
    78C:땇-땊땎땏땑땒땓땕-땛땞땢-땪 7AC:땫-떟떢떣떥떦떧떩떬-떯떲떶-떺떾떿뗁뗂뗃뗅-뗋뗎뗒-뗗뗙-뗫뗭-똏똒똓똕똖똗똙-똝 84A:똞-똤똦-똫똭-똳똵-똺
    86A:똻-뙇뙉-뙣뙥뙦뙧뙩-뚛뚞뚟뚡뚢뚣뚥-뚪뚭-뚰뚲-뛓뛕-뛝 908:뛞-뛯뛱뛲뛳뛵뛶뛷뛹뛺 928:뛻-뛿뜂뜃뜄뜆-뜧뜪뜫뜭뜮뜱-뜷뜺뜼-띃띅띆띇띉띊띋띍-띓띖-띟띡띢띣띥띦띧
    983:띩-띯띲띴띶-띻띾띿랁랂랃랅-랋랎랓랔랕랚랛랝랞랟랡-랧랪랮-랳랶랷랹-럁 9C6:럂-럆럈럊-럝 9E6:럞-럫럮럯럱럲럳럵-럻럾렂-렆렊렋렍렎렏렑-렗렚렜렞-렣렦렧렩렪렫렭-렳
    A26:렶렺-렿롁롂롃롅-롐롒롔-롛롞롟롡롢롣롥-롫롮롰롲-롷롹롺롻롽-뢌뢎-뢟 A84:뢠-뢧뢩-뢯뢱뢲뢳뢵뢶뢷뢹-뢽 AA4:뢾뢿룂룄룆-룋룍룎룏룑룒룓룕-룜룞룠룢-룧룪룫룭룮룯룱-룷
    AD0:룺룼룾-뤃뤅-뤗뤙-뤟뤡-뤻뤾뤿륁륂륃륅-륋륍륎륐륒-륗륚륛륝륞륟륡-륧륪륬륮-륳륶륷륹륺륻륽 B42:륾-릃릆릈릋릌릏-릞 B62:릟-릫릮릯릱릲릳릵-릻릾맀맂-맇맊맋맍맓-맗맚
    B8C:맜맟맠맢맦맧맩맪맫맭-맳맶맻-맿먂-먇먉-먔먖-먷먺먻먽먾먿멁멃-멇멊멌멏-멒멖멗멙멚멛멝-멣멦멪-멯 C00:멲멳멵멶멷멹-몂몆몈-몋몍-몒 C20:몓-몧몪몭몮몯몱몳-몷몺몼
    C41:몾-뫃뫅뫆뫇뫉-뫗뫚-뫻뫽뫾뫿묁묂묃묅-묌묎묐묒-묗묙묚묛묝묞묟묡-묨묪묬-묳묷묹묺묿-뭃뭆뭈뭊뭋뭌뭎뭑뭒 CBE:뭓뭕뭖뭗뭙-뭠뭢뭤-뭫뭭-뭱 CDE:뭲-뮇뮉뮊뮋뮍뮎뮏뮑-뮣뮥
    D0E:뮦뮧뮩뮪뮫뮭-뮳뮵뮶뮸-뮿믁믂믃믅믆믇믉-믏믑믒믔-믷믺믻믽믾밁밃-밇밊밎밐밒밓밙밚밠-밣밦밨밪밫밬밮밯밲밳밵 D7C:밶밷밹-밿뱂뱆뱇뱈뱊뱋뱎뱏뱑-뱙 D9C:뱚뱛뱜뱞-벃벆벇벉
    DC8:벊벍벏-벓벖벘벛-벟벢벣벥벦벩-벯벲벶-벻벾벿볁볂볃볅-볌볎볒볓볔볖볗볙볚볛볝-볳볷볹볺볻볽-봃봆봈봊-봏봑봒봓봕-봝 E3A:봞-봣봥-봫봭-봹 E5A:봺-봿뵁-뵇뵊뵋뵍뵎뵏
    E6C:뵑-뵗뵚-뵣뵥뵦뵧뵩-뵿붂붃붅붆붋-붏붒붔붖붗붘붛붝-붣붥-붯붱-붷붹-뷓뷖뷗뷙뷚뷛뷝-뷨뷪-뷯뷱 EF8:뷲뷳뷵뷶뷷뷹-뷿븁븂븄븆-븋븎븏븑븒븓 F18:븕-븛븞븠-빃빆빇빉빊빋
    F49:빍빏-빓빖빘빜-빟빢빣빥빦빧빩빫-빯빲빶-빺빾빿뺁뺂뺃뺅-뺋뺎뺒-뺗뺚-뺧뺩-뻏뻒뻓 FB6:뻕뻖뻙-뻟뻡뻢뻦-뻫뻭-뻵 FD6:뻶-뼀뼂-뼇뼊-뼗뼚뼞-뼿뽂뽃뽅뽆뽇뽉-뽏뽒뽓뽔
    1027:뽖-뾓뾕-뾝 1074:뾞-뾯뾱-뾸 1094:뾹-뿄뿆-뿋뿎뿏뿑뿒뿓뿕-뿛뿝뿞뿠뿢-쀻쀽-쁐쁒-쁗쁙쁚쁛 1132:쁝쁞쁟쁡-쁧쁪-쁹 1152:쁺-삏삒삓삕삖삗삙-삟삢삤
    1176:삦-삫삮삱삲삷-삻삾샂샃샄샆샇샊샋샍샎샏샑-샗샚샞-샣샦샧샩샪샫샭-샳샶샸샺-샿섁섂섃섅섆섇섉-섏섑-섔섖-섛섡섢섥섨-섫섮섲-섵섷섺섻섽섾섿셁-셇셊셎-셓셖셗
    11F0:셙셚셛셝-셣셦셪-셯셱셲셳셵셶셷셹셺셻 1210:셼-솄솆-솋솏솑솒솓솕솗-솛솞솠솢솣솤솦솧솪솫솭솮솯솱-솼솾-쇃쇅쇆쇇쇉쇊쇋쇍-쇓쇕쇖쇙-쇟쇡쇢쇣쇥쇦쇧쇩-쇯쇲쇴-쇻쇾쇿숁숂숃
    1278:숅-숋숎숐숒-숗숚숛숝숞숡-숧숪숬숮숰숳숵-쉅 12AE:쉆쉇쉉-쉏쉒쉓쉕쉖쉗쉙-쉟쉡-쉤쉦 12CE:쉧-쉫쉮쉯쉱쉲쉳쉵-쉻쉾슀슂-슇슊-슏슑-슗슙슚슜슞-슣슦슧슩슪슫슮-슳슶
    1309:슸슺-싛싞싟싡싢싥-싪싮싰싲-싵싷싺싽싾싿쌁-쌇쌊쌋쌎-쌒쌖쌗쌙쌚쌛쌝-쌣쌦쌧쌪-쌲 136C:쌳-썄썆-썍 138C:썎-썧썪썫썭썮썯썱썳-썷썺썻썾-쎃쎅쎆쎇쎉쎊쎋쎍-쎿쏁-쏗
    1409:쏚쏛쏝쏞쏡쏣-쏧쏪쏫쏬쏮-쏳쏶쏷쏹-쏾 142A:쏿-쐇쐉-쐏쐑-쐚 144A:쐛-쐣쐥-쐫쐭쐮쐯쐱쐲쐳쐵-쐻쐾-쑇쑉-쑣쑦쑧쑩쑪쑫쑭-쑳쑶쑷쑸쑺-쑿쒁-쒓쒕-쒛쒝-쒷쒹쒺쒻
    14D9:쒽-쓅 14E8:쓆-쓟 1508:쓠-쓨쓪-쓯쓲쓳쓵쓶쓷쓹쓻-쓾씂-씋씍씎씏씑씒씓씕-씛씝-씧씪씫씭씮씯씱-씷씺씼씾-앃앆앇앋앏-앒앖앚앛앜앟앢앣앥앦앧앩-앯앲앶-앻앾앿얁얂얃
    157B:얅얆얈-얋얎얐얒얓얔얖얙얚얛얝얞얟얡-얨얪-얳얶 15A6:얷얺얿-엃엋엍엏엒엓엕엖엗엙-엟엢엤엦엧 15C6:엨-엫엯엱엲엳엵엸-엻옂옃옄옉옊옋옍옎옏옑-옗옚옝-옣옦옧옩옪옫옯
    15F1:옱옲옶옸옺옼-옿왂왃왅왆왇왉-왏왒왖-왛왞왟왡-왫왭왮왰왲-왷왺왻왽왾왿욁-욇욊욌욎-욓욖욗욙욚욛욝-욣욦욨욪-욯욲욳욵욶욷욻-욿웂웄웆-웋웎 1664:웏웑웒웓웕-웛웞웟웢-웧
    1677:웪웫웭웮웯웱웲 1684:웳-웷웺웻웼웾-윃윆윇윉윊윋윍-윓윖윘윚-윟윢윣윥윦윧윩-윯윲윴윶윸-윻윾윿읁읂읃읅-읉읋읎읐읙읚읛읝읞읟읡-읧읩읪읬-읳읶읷읹읺읻읿-잂잆잋잌잍잏잒잓
    16ED:잕잙잛-잟잢잧-잫잮잯잱잲잳잵-잻잾쟂-쟇쟊쟋쟍쟏쟑-쟗쟙-쟜 1722:쟞-쟣쟥쟦쟧쟩쟪쟫쟭-쟺 1742:쟻-쟿젂젃젅젆젇젉젋-젏젒젔젗-젛젞젟젡젢젣젥-젫젮젰젲-젷젹젺젻젽
    1771:젾젿졁-졇졊졋졎-졓졕-졯졲졳졵졶졷졹졻-졿좂좄좈좉좊좎-좓좕-좜좞좠좢-좧좩-좻좾-죁 17E0:죂죃죅죆죇죉죊죋죍-죓죖죘죚-죟죢죣죥 1800:죦-죴죶-죻죾죿줁줂줃줇-줋
    181F:줎 1820=3000 1821:、。·‥…¨〃\u00AD―∥＼∼‘’“”〔〕〈-】±×÷≠≤≥∞∴°′″℃\u212B￠￡￥♂♀∠⊥⌒∂∇≡≒§※☆★○●◎◇◆□■△▲▽▼→
    1866:←↑↓↔〓≪≫√∽∝∵∫∬∈∋⊆⊇⊂⊃∪∩∧∨￢줐줒-줗줙-줫 189E:줭-줳줵-쥇 18BE:쥈-쥏쥒쥓쥕쥖쥗쥙-쥟쥢쥤-쥫쥭쥮쥯⇒⇔∀∃´～ˇ˘˝˚˙¸˛¡¿ː∮∑∏¤℉‰
    18F4:◁◀▷▶♤♠♡♥♧♣⊙◈▣◐◑▒▤▥▨▧▦▩♨☏☎☜☞¶†‡↕↗↙↖↘♭♩♪♬㉿㈜№㏇™㏂㏘℡€® 193C:쥱쥲쥳쥵-쥻쥽-즇즊즋즍즎즏 195C:즑-즗즚즜즞-즮
    197C:즯-즿짂짃짅짆짉짋-짏짒짔짗짘짛！-［￦］-｝￣짞짟짡짣짥짦짨-짫짮짲-짷짺짻짽짾짿쨁-쨄 1A1A:쨅쨆쨇쨊쨎-쨓쨕쨖쨗쨙-쨥 1A3A:쨦쨧쨨쨪-쩆ㄱ-ㆎ쩇-쩋쩎쩏쩑쩒쩓
    1AC2:쩕-쩛쩞쩢-쩧쩩쩪 1AD8:쩫-쩼쩾-쪃쪅쪆 1AF8:쪇-쪗쪙-쪧ⅰ-ⅹ 1B27:Ⅰ-Ⅹ 1B38:Α-ΡΣ-Ω 1B58:α-ρσ-ω 1B76:쪨-쪻쪾쪿쫁쫂쫃쫅
    1B96:쫆-쫋쫎쫐쫒쫔-쫗쫚-쫟쫡-쫧 1BB6:쫨-쫫쫭-쫳쫵-쬇쬉쬊─│┌┐┘└├┬┤┴┼━┃┏┓┛┗┣┳┫┻╋┠┯┨┷┿┝┰┥┸╂┒┑┚┙┖┕┎┍┞┟┡┢┦┧┩┪┭┮┱┲┵┶┹┺┽
    1C0F:┾╀╁╃-╊ 1C34:쬋-쬏쬑쬒쬓쬕쬖쬗쬙-쬟쬢-쬩 1C54:쬪-쭀쭂쭃쭄 1C74:쭅쭆쭇쭊쭋쭍쭎쭏쭑-쭗쭚쭛쭜쭞-쭣쭥-쭬㎕㎖㎗ℓ㎘㏄㎣-㎦㎙-㎢㏊㎍㎎㎏㏏㎈㎉㏈㎧㎨
    1CB2:㎰-㎹㎀-㎄㎺-㎿㎐-㎔\u2126㏀㏁㎊㎋㎌㏖㏅㎭㎮㎯㏛㎩-㎬㏝㏐㏓㏃㏉㏜㏆ 1CF2:쭭-쭷쭺-쮈 1D12:쮉-쮛쮝-쮣 1D32:쮤-쮷쮹-쯄ÆÐªĦ
    1D57:Ĳ 1D59:ĿŁØŒºÞŦŊ 1D62:㉠-㉻ⓐ-ⓩ①-⑮½⅓⅔¼¾⅛-⅞쯅-쯓쯕-쯟 1DD0:쯠-쯣쯥쯦쯨쯪-쯼 1DF0:쯽-찋찎찏찑찒찓찕-찛찞찟찠찣찤æđðħıĳĸŀ
    1E18:łøœßþŧŋŉ㈀-㈛⒜-⒵⑴-⒂¹²³⁴ⁿ₁-₄찥찦찪찫찭찯찱-찷찺찿-챃챆챇챉챊챋챍챎 1E8E:챏-챓챖챚-챟챡챢챣챥챧챩-챯챱챲 1EAE:챳챴챶-첓ぁ-ん
    1F2C:첔-첗첚첛첝첞첟첡-첧첪첮-첳첶첷첹 1F4C:첺첻첽-쳃쳆쳈쳊-쳏쳑쳒쳓쳕-쳚 1F6C:쳛-쳣쳥-쳫쳭쳮쳯쳱-쳽ァ-ヶ 1FEA:쳾쳿촀촂-촇촊촋촍촎촏촑-촗촚촜촞촟촠
    200A:촡촢촣촥촦촧촩촪촫촭-촸촺-촾 202A:촿-쵛쵝쵞쵟А-ЕЁЖ-Я 207A:а-еёж-я 20A8:쵡쵢쵣쵥-쵫쵮쵰쵲-쵷쵹-춀 20C8:춁-춇춉-춓춖춗춙춚춛춝춞춟
    20E8:춠-춣춦춨춪-춯춱-췃췅 2166:췆-췋췍췎췏췑-췡 2186:췢-췧췩췪췫췭췮췯췱-췷췺췼췾-츂 21A6:츃츅츆츇츉츊츋츍-츓츕-츘츚-츟츢츣츥츦츧츩츪츫
    2224:츬-츯츲츴츶-칉 2244:칊-칗칚칛칝칞칢-칧칪칬 2264:칮-칳칶칷칹칺칻칽-캃캆캈캊-캏캒캓캕캖캗캙 22E2:캚-캟캢캦-캫캮-캺 2302:캻-컀컂-컕
    2322:컖-컣컦컧컩컪컭-컳컶컺-컿가각간갇-갊감-갗같-객갠갤갬갭갯갰갱갸갹갼걀걋걍걔걘걜거걱건걷걸걺검겁것-겆겉-게겐겔겜겝겟겠겡겨격겪견겯결겸겹겻겼경곁계곈곌곕곗고곡곤곧골곪곬곯곰
    2397:곱곳공곶과곽관괄괆켂켃켅켆켇켉-켏켒켔켖-켛켝켞켟켡켢켣 23C0:켥-켫켮켲-켷켹-콄 23E0:콅-콓콖콗콙콚콛콝-콣콦콨콪콫콬괌괍괏광괘괜괠괩괬괭괴괵괸괼굄굅굇굉교굔굘굡굣
    2417:구국군굳-굶굻굼굽굿궁궂궈궉권궐궜궝궤궷귀귁귄귈귐귑귓규균귤그극근귿글긁금급긋긍긔기긱긴긷길긺김깁깃깅깆깊까깍깎깐깔깖깜깝깟깠깡깥깨깩깬깰깸콭콮콯콲콳콵콶콷콹-콿쾁-쾄쾆-쾋쾍
    247E:쾎-쾠쾢-쾧쾩 249E:쾪-쾯쾱-쿃쿅-쿋깹깻깼깽꺄꺅꺌꺼꺽꺾껀껄껌껍껏껐껑께껙껜껨껫껭껴껸껼꼇꼈꼍꼐꼬꼭꼰꼲꼴꼼꼽꼿꽁꽂꽃꽈꽉꽐꽜꽝꽤꽥꽹꾀꾄꾈꾐꾑꾕꾜꾸꾹꾼꿀꿇꿈꿉꿋꿍꿎꿔
    2501:꿜꿨꿩꿰꿱꿴꿸뀀뀁뀄뀌뀐뀔뀜뀝뀨끄끅끈끊끌끎끓끔끕끗끙쿌-쿟쿢쿣쿥쿦쿧쿩 253C:쿪-쿯쿲쿴쿶-쿻쿽쿾쿿퀁퀂퀃퀅-퀊 255C:퀋-퀐퀒-퀗퀙-퀬끝끼끽낀낄낌낍낏낑나낙낚난
    2589:낟-낢남납낫-낯낱낳내낵낸낼냄냅냇냈냉냐냑냔냘냠냥너넉넋넌널넒넓넘넙넛넜넝넣네넥넨넬넴넵넷넸넹녀녁년녈념녑녔녕녘녜녠노녹논놀놂놈놉놋농높놓놔놘놜놨뇌뇐뇔뇜뇝퀮-퀳퀶퀷퀹퀺퀻퀽-큃
    25EC:큆큈큊-큏 25FA:큑큒큓큕큖큗큙-큟큡-큫큮큯 261A:큱큲큳큵-큻큾큿킀킂-킔뇟뇨뇩뇬뇰뇹뇻뇽누눅눈눋눌눔눕눗눙눠눴눼뉘뉜뉠뉨뉩뉴뉵뉼늄늅늉느늑는늘늙늚늠늡늣능늦늪늬늰늴
    2668:니닉닌닐닒님닙닛닝닢다닥닦단닫-닯닳담답닷-닻닿대댁댄댈댐댑댓댔댕댜더덕덖던덛덜덞덟덤덥킕-킣킦킧킩킪킫킭-킲 26B8:킳킶킸킺-킿탂탃탅탆탇탊-탏탒탖-탚
    26D8:탛탞탟탡탢탣탥-탫탮탲-탷탹-턄덧덩덫덮데덱덴델뎀뎁뎃뎄뎅뎌뎐뎔뎠뎡뎨뎬도독돈돋돌돎돐돔돕돗동돛돝돠돤돨돼됐되된될됨됩됫됴두둑둔둘둠둡둣둥둬뒀뒈뒝뒤뒨뒬뒵뒷뒹듀듄듈듐듕드득든듣들
    2741:듦듬듭듯등듸디딕딘딛딜딤딥딧-딪따딱딴딸턅-턌턎-턟 2776:턠-턯턲턳턵턶턷턹턻-턾 2796:턿텂텆-텋텎텏텑텒텓텕-텛텞텠텢-텧텩텪텫텭땀땁땃땄땅땋때땍땐땔땜땝땟땠땡떠떡
    27C7:떤떨떪떫떰떱떳떴떵떻떼떽뗀뗄뗌뗍뗏뗐뗑뗘뗬또똑똔똘똥똬똴뙈뙤뙨뚜뚝뚠뚤뚫뚬뚱뛔뛰뛴뛸뜀뜁뜅뜨뜩뜬뜯뜰뜸뜹뜻띄띈띌띔띕띠띤띨띰띱띳띵라락란랄람랍랏-랒랖랗텮-텻텽-톃톅톆톇톉톊
    2834:톋-톟톢톣톥톦톧 2854:톩-톯톲톴톶-톹톻톽톾톿퇁-퇏래랙랜랠램랩랫랬랭랴략랸럇량러럭런럴럼럽럿렀렁렇레렉렌렐렘렙렛렝려력련렬렴렵렷렸령례롄롑롓로록론롤롬롭롯롱롸롼뢍뢨뢰뢴뢸
    28B0:룀룁룃룅료룐룔룝룟룡루룩룬룰룸룹룻룽뤄뤘뤠뤼뤽륀륄륌륏륑류륙륜률륨륩퇐-퇗퇙-퇪 28F2:퇫-퇳퇵퇶퇷퇹-툆 2912:툈툊-툏툑-툩륫륭르륵른를름릅릇릉릊릍릎리릭린릴림립릿링
    2947:마막만많-맒맘맙맛망맞맡맣매맥맨맬맴맵맷-맺먀먁먈먕머먹먼멀멂멈멉멋멍멎멓메멕멘멜멤멥멧멨멩며멱면멸몃몄명몇몌모목몫몬몰몲몸몹못몽뫄뫈뫘뫙뫼툪툫툮툯툱툲툳툵-툻툾퉀퉂-퉇퉉-퉌
    29B0:퉍-퉛퉝-퉣퉥-퉨 29D0:퉩-퉿튂튃튅튆튇튉-튌묀묄묍묏묑묘묜묠묩묫무묵묶문묻-묾뭄뭅뭇뭉뭍뭏뭐뭔뭘뭡뭣뭬뮈뮌뮐뮤뮨뮬뮴뮷므믄믈믐믓미믹민믿밀밂밈밉밋밌밍및밑바-반받-밟밤밥
    2A34:밧방밭배백밴밸뱀뱁뱃뱄뱅뱉뱌뱍뱐뱝버벅번벋벌벎범법벗튍튎튏튒튓튔튖-튛튝튞튟튡튢튣튥-튫튭 2A6E:튮튯튰튲-튷튺튻튽튾틁틃-틇틊틌-틑 2A8E:틒틓틕틖틗틙틚틛틝-틣틦-틯
    2AA7:틲틳틵틶틷틹틺벙벚베벡벤벧벨벰벱벳벴벵벼벽변별볍볏볐병볕볘볜보복볶본볼봄봅봇봉봐봔봤봬뵀뵈뵉뵌뵐뵘뵙뵤뵨부북분붇-붊붐붑붓붕붙붚붜붤붰붸뷔뷕뷘뷜뷩뷰뷴뷸븀븃븅브븍븐블븜븝븟비빅빈
    2B01:빌빎빔빕빗빙빚빛빠빡빤틻-틿팂팄팆-팋팏팑팒팓팕팗-팛팞팢팣 2B2C:팤팦팧팪팫팭팮팯팱-팷팺팾-퍃퍆-퍉 2B4C:퍊-퍩빨빪빰빱빳빴빵빻빼빽뺀뺄뺌뺍뺏뺐뺑뺘뺙뺨뻐뻑뻔뻗뻘뻠
    2B86:뻣뻤뻥뻬뼁뼈뼉뼘뼙뼛뼜뼝뽀뽁뽄뽈뽐뽑뽕뾔뾰뿅뿌뿍뿐뿔뿜뿟뿡쀼쁑쁘쁜쁠쁨쁩삐삑삔삘삠삡삣삥사삭삯산삳-삶삼삽삿샀상샅새색샌샐샘샙샛샜생샤퍪-퍻퍾퍿펁펂펃펅펆펇
    2BEA:펈-펋펎펒-펗펚펛펝펞펟펡-펧펪펬펮 2C0A:펯-펳펵펶펷펹펺펻펽-폃폆폇폊-폏폑-폖샥샨샬샴샵샷샹섀섄섈섐섕서-선섣설섦섧섬섭섯섰성섶세섹센셀셈셉셋셌셍셔셕션셜셤셥셧셨셩셰셴
    2C59:셸솅소속솎손솔솖솜솝솟송솥솨솩솬솰솽쇄쇈쇌쇔쇗쇘쇠쇤쇨쇰쇱쇳쇼쇽숀숄숌숍숏숑수숙순숟술숨숩숫숭폗폙-폠폢폤-폫폮폯폱폲폳폵폶폷 2CA8:폸-폻폾퐀퐂-퐇퐉-퐖
    2CC8:퐗-퐜퐞-퐷숯숱숲숴쉈쉐쉑쉔쉘쉠쉥쉬쉭쉰쉴쉼쉽쉿슁슈슉슐슘슛슝스슥슨슬슭슴습슷승시식신싣실싫심십싯싱싶싸싹싻싼쌀쌈쌉쌌쌍쌓쌔쌕쌘쌜쌤쌥쌨쌩썅써썩썬썰썲썸썹썼썽쎄쎈쎌쏀쏘쏙쏜쏟쏠쏢
    2D3B:쏨쏩쏭쏴쏵쏸쐈쐐쐤쐬쐰퐸-퐿푁푂푃푅-푓 2D66:푔-푛푝푞푟푡푢푣푥-푬푮푰푱푲 2D86:푳-푷푺푻푽푾풁풃-풇풊풌풎-풓풕-풝쐴쐼쐽쑈쑤쑥쑨쑬쑴쑵쑹쒀쒔쒜쒸쒼쓩쓰쓱쓴쓸쓺
    2DBC:쓿씀씁씌씐씔씜씨씩씬씰씸씹씻씽아악안앉않알앍앎앓암압앗았앙앝앞애액앤앨앰앱앳앴앵야약얀얄얇얌얍얏양얕얗얘얜얠얩어억언얹얻-얾엄-엊엌엎풞-풨풪-풸
    2E24:풹-퓋퓍퓎퓏퓑퓒퓓퓕 2E44:퓖-퓛퓝퓞퓠-퓧퓩퓪퓫퓭퓮퓯퓱-퓷퓹퓺퓼에엑엔엘엠엡엣엥여역엮연열엶엷염-영옅-예옌옐옘옙옛옜오옥온올옭옮옰옳옴옵옷옹옻와왁완왈왐왑왓왔왕왜왝왠왬
    2E9D:왯왱외왹왼욀욈욉욋욍요욕욘욜욤욥욧용우욱운울욹욺움웁웃웅워웍원월웜웝웠웡웨퓾-픃픅픆픇픉픊픋픍-픓픖픘-픝 2EE2:픞-픷 2F02:픸-픻픾픿핁핂핃핅-핋핎핐핒-핗핚핛핝핞핟
    2F1F:핡핢핣웩웬웰웸웹웽위윅윈윌윔윕윗윙유육윤율윰윱윳융윷으윽은을읊음읍읏응-의읜읠읨읫이익인일읽읾잃임입잇-잊잎자작잔잖잗잘잚잠잡잣-잦재잭잰잴잼잽잿쟀쟁쟈쟉쟌쟎쟐쟘쟝쟤쟨쟬저적전절
    2F7F:젊핤핦핧핪핬핮-핳핶핷핹핺핻핽-햃햆햊햋 2FA0:햌-햏햑-햤햦햧 2FC0:햨-헇점접젓정젖제젝젠젤젬젭젯젱져젼졀졈졉졌졍졔조족존졸졺좀좁좃종좆좇좋좌좍좔좝좟좡좨좼좽죄죈죌죔
    300E:죕죗죙죠죡죤죵주죽준줄줅줆줌줍줏중줘줬줴쥐쥑쥔쥘쥠쥡쥣쥬쥰쥴쥼즈즉즌즐즘즙즛증지직진짇질짊짐집짓헊헋헍헎헏헑헓-헗헚헜헞-헣헦헧헩헪헫헭헮 305E:헯-헳헶헸헺-헿혂혃혅혆혇
    3070:혉-혏혒 307E:혖-혛혝혞혟혡혢혣혥-혬혮-혷혺혻징짖짙짚짜짝짠짢짤짧짬짭짯짰짱째짹짼쨀쨈쨉쨋쨌쨍쨔쨘쨩쩌쩍쩐쩔쩜쩝쩟쩠쩡쩨쩽쪄쪘쪼쪽쫀쫄쫌쫍쫏쫑쫓쫘쫙쫠쫬쫴쬈쬐쬔쬘쬠쬡쭁쭈
    30DC:쭉쭌쭐쭘쭙쭝쭤쭸쭹쮜쮸쯔쯤쯧쯩찌찍찐찔찜찝찡찢찧차착찬찮찰참찹찻혽혾혿홁-홄홆홇홊홌홎홏홐홒홓홖홗홙홚홛홝-홡 311C:홢-홦홨홪-홯홲홳홵-횀 313C:횁횂횄횆-횋횎횏횑횒
    3149:횓횕-횜횞횠횢-횧횩횪찼창찾채책챈챌챔챕챗챘챙챠챤챦챨챰챵처척천철첨첩첫첬청체첵첸첼쳄쳅쳇쳉쳐쳔쳤쳬쳰촁초촉촌촐촘촙촛총촤촨촬촹최쵠쵤쵬쵭쵯쵱쵸춈추축춘출춤춥춧충춰췄췌췐취췬췰췸
    31AA:췹췻췽츄츈츌츔츙츠측츤츨츰츱츳층횫횭횮횯횱-횸횺횼-훃훆훇훉훊훋 31DA:훍-훐훒훓훕훖훘훚-훟훡훢훣훥훦훧훩-훭 31FA:훮훯훱-훴훶-훻훾훿휁휂휃휅-휐휒휓휔치칙친칟칠칡
    3220:침칩칫칭카칵칸칼캄캅캇캉캐캑캔캘캠캡캣캤캥캬캭컁커컥컨컫컬컴컵컷컸컹케켁켄켈켐켑켓켕켜켠켤켬켭켯켰켱켸코콕콘콜콤콥콧콩콰콱콴콸쾀쾅쾌쾡쾨쾰쿄쿠쿡쿤쿨쿰쿱쿳쿵쿼퀀퀄퀑퀘퀭퀴퀵퀸퀼휕
    3279:휖휗휚휛휝휞휟휡-휧휪휬휮-휳휶휷휹 3298:휺휻휽-흃흅흆흈흊-흏흒흓흕흚-흞 32B8:흟흢흤흦흧흨흪흫흭흮흯흱흲흳흵-흻흾흿힀힂-힇힊힋큄큅큇큉큐큔큘큠크큭큰클큼큽킁키킥
    32E9:킨킬킴킵킷킹타탁탄탈탉탐탑탓탔탕태택탠탤탬탭탯탰탱탸턍터턱턴털턺텀텁텃텄텅테텍텐텔템텝텟텡텨텬텼톄톈토톡톤톨톰톱톳통톺톼퇀퇘퇴퇸툇툉툐투툭툰툴툼툽툿퉁퉈퉜힍힎힏힑-힗힚힜힞-힣
    3396:퉤튀튁튄튈튐튑튕튜튠튤튬튱트특튼튿틀틂틈틉틋틔틘틜틤틥티틱틴틸팀팁팃팅파팍팎판팔팖팜팝팟팠팡팥패팩팬팰팸팹팻팼팽퍄퍅퍼퍽펀펄펌펍펏펐펑페펙펜펠펨펩펫펭펴편펼폄폅폈평폐폘폡폣포폭폰
    33EF:폴폼폽폿퐁 3454:퐈퐝푀푄표푠푤푭푯푸푹푼푿풀풂품풉풋풍풔풩퓌퓐퓔퓜퓟퓨퓬퓰퓸퓻퓽프픈플픔픕픗피픽핀필핌핍핏핑하학한할핥함합핫항해핵핸핼햄햅햇했행햐향허헉헌헐헒험헙헛헝헤헥헨
    34A2:헬헴헵헷헹혀혁현혈혐협혓혔형혜혠 3512:혤혭호혹혼홀홅홈홉홋홍홑화확환활홧황홰홱홴횃횅회획횐횔횝횟횡효횬횰횹횻후훅훈훌훑훔훗훙훠훤훨훰훵훼훽휀휄휑휘휙휜휠휨휩휫휭휴휵휸휼흄흇
    3555:흉흐흑흔흖-흙흠흡흣흥흩희흰흴흼흽힁히힉힌힐힘힙힛힝 368E:伽佳假價加可呵哥嘉嫁家暇架枷柯歌珂痂稼苛茄街袈訶賈跏軻迦駕刻却各恪慤殼珏脚覺角閣侃刊墾奸姦干幹懇揀杆柬桿澗癎看磵稈
    36C7:竿簡肝艮艱諫間乫喝曷渴碣竭葛褐蝎鞨勘坎堪嵌感憾戡敢柑橄減甘疳監瞰紺邯鑑鑒龕 374C:匣岬甲胛鉀閘剛堈姜岡崗康强彊慷江畺疆糠絳綱羌腔舡薑襁講鋼降鱇介价個凱塏愷愾慨改槪漑疥皆盖箇芥
    377A:蓋\uF900鎧開喀客坑\uF901粳羹醵倨去居巨拒据據擧渠炬祛距踞\uF902遽鉅鋸乾件健巾建愆楗腱虔蹇鍵騫乞傑杰桀儉劍劒檢 380A:瞼鈐黔劫怯迲偈憩揭擊格檄激膈覡隔堅牽犬甄
    381E:絹繭肩見譴遣鵑抉決潔結缺訣兼慊箝謙鉗鎌京俓倞傾儆勁勍卿坰境庚徑慶憬擎敬景暻更梗涇炅烱璟璥瓊痙硬磬竟競絅經耕耿脛莖警輕逕鏡頃頸驚鯨係啓堺契季屆悸戒桂械 38C8:棨溪界癸磎稽系繫繼
    38D1:計誡谿階鷄古叩告呱固姑孤尻庫拷攷故敲暠枯槁沽痼皐睾稿羔考股膏苦苽菰藁蠱袴誥\uF903辜錮雇顧高鼓哭斛曲梏穀谷鵠困坤崑昆梱棍滾琨袞鯤汨\uF904骨供公共功孔工恐恭拱控攻珙空蚣貢
    3920:鞏串寡戈果瓜 3986:科菓誇課跨過鍋顆廓槨藿郭\uF905冠官寬慣棺款灌琯瓘管罐菅觀貫關館刮恝括适侊光匡壙廣曠洸炚狂珖筐胱鑛卦掛罫乖傀塊壞怪愧拐槐魁宏紘肱轟交僑咬喬嬌嶠巧攪敎校
    39CE:橋狡皎矯絞翹膠蕎蛟較轎郊餃驕鮫丘久九仇俱具勾 3A44:區口句咎嘔坵垢寇嶇廐懼拘救枸柩構歐毆毬求溝灸狗玖球瞿矩究絿耉臼舅舊苟衢謳購軀逑邱鉤銶駒驅鳩鷗龜國局菊鞠鞫麴君窘群裙軍郡堀屈
    3A81:掘窟宮弓穹窮芎躬倦券勸卷圈拳捲權淃眷厥獗蕨蹶闕机櫃潰詭軌饋\uF906晷歸貴 3B02:鬼\uF907叫圭奎揆槻珪硅窺竅糾葵規赳逵閨勻均畇筠菌鈞\uF908橘克剋劇戟棘極隙僅劤勤
    3B25:懃斤根槿瑾筋芹菫覲謹近饉\uF909今妗擒昑檎琴禁禽芩衾衿襟\uF90A錦伋及急扱汲級給亘兢矜肯企伎其冀嗜器圻基埼夔奇妓寄岐崎己幾忌技旗旣 3BC0:朞期杞棋棄機欺氣汽沂淇玘琦琪
    3BCE:璂璣畸畿碁磯祁祇祈祺箕紀綺羈耆耭肌記譏豈起錡錤飢饑騎騏驥麒緊佶吉拮桔金喫儺\uF90B\uF90C娜懦\uF90D拏拿\uF90E-\uF913那\uF914-\uF918諾
    3C07:\uF919-\uF91C暖\uF91D煖\uF91E\uF91F難\uF920捏捺南\uF921枏楠湳\uF922男\uF923\uF924\uF925
    3C7E:納\uF926\uF927衲囊娘\uF928-\uF92C乃\uF92D內奈柰耐\uF92E女年撚秊念恬拈捻寧寗努\uF92F奴弩怒\uF930\uF931\uF932瑙
    3CA3:\uF933-\uF938駑\uF939-\uF943濃\uF944\uF945膿農惱\uF946\uF947腦\uF948\uF949尿\uF94A-\uF951嫩訥杻紐
    3CCD:\uF952-\uF957能\uF958\uF959尼泥匿溺多茶 3D3C:丹亶但單團壇彖斷旦檀段湍短端簞緞蛋袒鄲鍛撻澾獺疸達啖坍憺擔曇淡湛潭澹痰聃膽蕁覃談譚錟沓畓答踏遝唐堂塘幢
    3D6F:戇撞棠當糖螳黨代垈坮大對岱帶待戴擡玳臺袋貸隊黛宅德悳倒刀到圖堵塗導屠島嶋度徒悼挑掉搗桃 3DFA:棹櫂淘渡滔濤燾盜睹禱稻萄覩賭跳蹈逃途道都鍍陶韜毒瀆牘犢獨督禿篤纛讀墩惇敦旽暾沌焞
    3E22:燉豚頓乭突仝冬凍動同憧東桐棟洞潼疼瞳童胴董銅兜斗杜枓痘竇荳\uF95A豆逗頭屯臀芚遁遯鈍得嶝橙燈登等藤謄鄧騰喇懶\uF95B癩羅 3EB8:蘿螺裸邏\uF95C洛烙珞絡落
    3EC2:\uF95D酪駱\uF95E亂卵欄欒瀾爛蘭鸞剌辣嵐擥攬欖濫籃纜藍襤覽拉臘蠟廊朗浪狼琅瑯螂郞來崍徠萊冷掠略亮倆兩凉梁樑粮粱糧良諒輛量侶儷勵呂廬慮戾旅櫚濾礪藜蠣閭驢驪麗黎力曆歷瀝礫轢
    3F11:靂憐戀攣漣 3F76:煉璉練聯蓮輦連鍊冽列劣洌烈裂廉斂殮濂簾獵令伶囹\uF95F岺嶺怜玲笭羚翎聆逞鈴零靈領齡例澧禮醴隷勞\uF960撈擄櫓潞瀘爐盧老蘆虜路輅露魯鷺鹵碌祿綠菉錄鹿麓
    3FBA:論壟弄朧瀧瓏籠聾儡瀨牢磊賂賚賴雷了僚寮廖料燎療瞭聊蓼 4034:遼鬧龍壘婁屢樓淚漏瘻累縷蔞褸鏤陋劉旒柳榴流溜瀏琉瑠留瘤硫謬類六戮陸侖倫崙淪綸輪律慄栗\uF961隆勒肋凜凌楞稜綾菱
    4068:陵俚利厘吏唎履悧李梨浬犁狸理璃\uF962痢籬罹羸莉裏裡里釐離鯉吝潾燐璘藺躪隣鱗麟林淋琳臨霖砬 40F2:立笠粒摩瑪痲碼磨馬魔麻寞幕漠膜莫邈万卍娩巒彎慢挽晩曼滿漫灣瞞萬蔓蠻輓饅鰻
    4116:唜抹末沫茉襪靺亡妄忘忙望網罔芒茫莽輞邙埋妹媒寐昧枚梅每煤罵買賣邁魅脈貊陌驀麥孟氓猛盲盟萌冪覓免冕勉棉沔眄眠綿緬面麵滅 41B0:蔑冥名命明暝椧溟皿瞑茗蓂螟酩銘鳴袂侮冒募姆帽慕摸摹
    41C9:暮某模母毛牟牡瑁眸矛耗芼茅謀謨貌木沐牧目睦穆鶩歿沒夢朦蒙卯墓妙廟描昴杳渺猫竗苗錨務巫憮懋戊拇撫无楙武毋無珷畝繆舞茂蕪誣貿霧鵡墨默們刎吻問文 426E:汶紊紋聞蚊門雯勿沕物味媚尾嵋
    427C:彌微未梶楣渼湄眉米美薇謎迷靡黴岷悶愍憫敏旻旼民泯玟珉緡閔密蜜謐剝博拍搏撲朴樸泊珀璞箔粕縛膊舶薄迫雹駁伴半反叛拌搬攀斑槃泮潘班畔瘢盤盼磐磻礬絆般蟠返頒飯勃拔撥渤潑
    432C:發跋醱鉢髮魃倣傍坊妨尨幇彷房放方旁昉枋榜滂磅紡肪膀舫芳蒡蚌訪謗邦防龐倍俳\uF963培徘拜排杯湃焙盃背胚裴裵褙賠輩配陪伯佰帛柏栢白百魄幡樊煩燔番\uF964繁蕃藩飜伐筏罰閥凡帆梵
    437B:氾汎泛犯範范法琺僻劈壁擘檗璧癖 43EA:碧蘗闢霹\uF965卞弁變辨辯邊別瞥鱉鼈丙倂兵屛幷昞昺柄棅炳甁病秉竝輧餠騈保堡報寶普步洑湺潽珤甫菩補褓譜輔伏僕匐卜宓復服福腹茯蔔複覆輹輻
    4429:馥鰒本乶俸奉封峯峰捧棒烽熢琫縫蓬蜂逢鋒鳳不付俯傅剖副否咐埠夫婦 44A8:孚孵富府\uF966扶敷斧浮溥父符簿缶腐腑膚艀芙莩訃負賦賻赴趺部釜阜附駙鳧北分吩噴墳奔奮忿憤扮昐汾焚盆粉
    44D7:糞紛芬賁雰\uF967佛弗彿拂崩朋棚硼繃鵬丕備匕匪卑妃婢庇悲憊扉批斐枇榧比毖毗毘沸\uF968琵痺砒碑秕秘粃緋翡肥 4566:脾臂菲蜚裨誹譬費鄙非飛鼻嚬嬪彬斌檳殯浜濱瀕牝玭貧賓頻
    4580:憑氷聘騁乍事些仕伺似使俟僿史司唆嗣四士奢娑寫寺射巳師徙思捨斜斯柶査梭死沙泗渣瀉獅砂社祀祠私篩紗絲肆舍莎蓑蛇裟詐詞謝賜赦辭邪飼駟麝削\uF969朔\uF96A
    4624:傘刪山散汕珊産疝算蒜酸霰乷撒殺煞薩三\uF96B杉森渗芟蔘衫揷澁鈒颯上傷像償商喪嘗孀尙峠常床庠廂想桑橡湘爽牀狀相祥箱翔裳觴詳象賞霜塞璽賽嗇\uF96C穡索色牲生甥\uF96D笙墅
    466E:壻嶼序庶徐恕抒捿敍暑曙書栖棲犀瑞筮絮緖署 46E2:胥舒薯西誓逝鋤黍鼠夕奭席惜昔晳析汐淅潟石碩蓆釋錫仙僊先善嬋宣扇敾旋渲煽琁瑄璇璿癬禪線繕羨腺膳船蘚蟬詵跣選銑鐥饍鮮卨屑楔泄洩渫舌
    4721:薛褻設說雪齧剡暹殲纖蟾贍閃陝攝涉燮\uF96E城姓宬性惺成星晟猩珹盛省筬 47A0:聖聲腥誠醒世勢歲洗稅笹細\uF96F貰召嘯塑宵小少巢所掃搔昭梳沼消溯瀟炤燒甦疏疎瘙笑篠簫素紹蔬
    47CA:蕭蘇訴逍遡邵銷韶騷俗屬束涑粟續謖贖速孫巽損蓀遜飡率宋悚松淞訟誦送頌刷\uF970灑碎鎖衰釗修受嗽囚垂壽嫂守岫峀帥愁 485E:戍手授搜收數樹殊水洙漱燧狩獸琇璲瘦睡秀穗竪粹綏綬繡羞
    4878:脩茱蒐蓚藪袖誰讐輸遂邃酬銖銹隋隧隨雖需須首髓鬚叔塾夙孰宿淑潚熟琡璹肅菽巡徇循恂旬栒楯橓殉洵淳珣盾瞬筍純脣舜荀蓴蕣詢諄醇錞順馴戌術述鉥崇崧 491C:嵩瑟膝蝨濕拾習褶襲丞乘僧勝升承
    492B:昇繩蠅陞侍匙嘶始媤尸屎屍市弑恃施是時枾柴猜矢示翅蒔蓍視試詩諡豕豺埴寔式息拭植殖湜熄篒蝕識軾食飾伸侁信呻娠宸愼新晨燼申神紳腎臣莘薪藎蜃訊身辛\uF971迅失室實悉審尋心沁
    49DA:\uF972深瀋甚芯諶什十\uF973雙氏亞俄兒啞娥峨我牙芽莪蛾衙訝阿雅餓鴉鵝堊岳嶽幄惡愕握樂渥鄂鍔顎鰐齷安岸按晏案眼雁鞍顔鮟斡謁軋閼唵岩巖庵暗癌菴闇壓押狎鴨仰央怏昻殃秧鴦厓哀埃
    4A29:崖愛曖涯碍艾隘靄厄扼掖液縊腋額 4A98:櫻罌鶯鸚也倻冶夜惹揶椰爺耶\uF974野弱\uF975\uF976約若葯蒻藥躍\uF977佯\uF978\uF979壤孃恙揚攘敭暘
    4ABB:\uF97A楊樣洋瀁煬痒瘍禳穰\uF97B羊\uF97C襄\uF97D讓釀陽\uF97E養圄御於漁瘀禦語馭魚齬億憶抑檍臆偃堰彦焉言諺孼蘖俺儼嚴奄掩淹嶪業円予余\uF97F
    4AF2:\uF980\uF981如\uF982 4B56:\uF983歟汝\uF984璵礖\uF985與艅茹輿轝\uF986餘\uF987\uF988\uF989亦\uF98A域役易
    4B6C:\uF98B\uF98C疫繹譯\uF98D逆驛嚥堧姸娟宴\uF98E延\uF98F\uF990捐挻\uF991椽沇沿涎涓淵演\uF992烟然煙\uF993燃燕\uF994硏硯
    4B91:\uF995筵緣\uF996縯\uF997衍軟\uF998\uF999\uF99A鉛\uF99B鳶\uF99C\uF99D\uF99E悅涅\uF99F熱\uF9A0\uF9A1閱
    4BA9:厭\uF9A2\uF9A3\uF9A4染\uF9A5炎焰琰艶苒 4C14:\uF9A6閻髥鹽曄\uF9A7燁葉\uF9A8\uF9A9塋\uF9AA\uF9AB嶸影\uF9AC映
    4C25:暎楹榮永泳渶潁濚瀛瀯煐營獰\uF9AD瑛\uF9AE瓔盈穎纓\uF9AF\uF9B0英詠迎\uF9B1鍈\uF9B2霙\uF9B3\uF9B4乂倪\uF9B5刈叡曳汭濊猊睿穢芮藝
    4C51:蘂\uF9B6裔詣譽豫\uF9B7銳\uF9B8霓預五伍俉傲午吾吳嗚塢墺奧娛寤悟\uF9B9懊敖旿晤梧汚澳 4CD2:烏熬獒筽蜈誤鰲鼇屋沃獄玉鈺溫瑥瘟穩縕蘊兀壅擁瓮甕癰翁邕雍饔渦
    4CF0:瓦窩窪臥蛙蝸訛婉完宛梡椀浣玩琓琬碗緩翫脘腕莞豌阮頑曰往旺枉汪王倭娃歪矮外嵬巍猥畏\uF9BA\uF9BB僥凹堯夭妖姚寥\uF9BC\uF9BD嶢拗搖撓擾\uF9BE曜\uF9BF
    4D2B:橈\uF9C0燿瑤\uF9C1 4D90:窈窯繇繞耀腰\uF9C2蟯要謠遙\uF9C3邀饒慾欲浴縟褥辱俑傭冗勇埇墉容庸慂榕涌湧溶熔瑢用甬聳茸蓉踊鎔鏞\uF9C4于佑偶優又友右宇寓
    4DC5:尤愚憂旴牛玗瑀盂祐禑禹紆羽芋藕虞迂遇郵釪隅雨雩勖彧旭昱栯煜稶郁頊云\uF9C5橒殞澐熉耘芸蕓 4E4E:運隕雲韻蔚鬱亐熊雄元原員圓園垣媛嫄寃怨愿援沅洹湲源爰猿瑗苑袁轅遠
    4E6E:\uF9C6院願鴛月越鉞位偉僞危圍委威尉慰暐渭爲瑋緯胃萎葦蔿蝟衛褘謂違韋魏乳侑儒兪\uF9C7唯喩孺宥幼幽庾悠惟愈愉揄攸有\uF9C8柔柚\uF9C9楡楢油洧\uF9CA游
    4EAB:\uF9CB 4F0C:濡猶猷\uF9CC瑜由\uF9CD癒\uF9CE\uF9CF維臾萸裕誘諛諭踰蹂遊逾遺酉釉鍮\uF9D0\uF9D1堉\uF9D2毓肉育\uF9D3
    4F2D:\uF9D4允奫尹\uF9D5\uF9D6潤玧胤贇\uF9D7鈗閏\uF9D8-\uF9DB聿戎瀜絨融\uF9DC垠恩慇殷誾銀隱乙吟淫蔭陰音飮揖泣邑凝應膺鷹依倚儀宜意懿擬椅毅疑矣
    4F64:義艤薏蟻衣誼 4FCA:議醫二以伊\uF9DD\uF9DE夷姨\uF9DF已弛彛怡\uF9E0-\uF9E3爾珥\uF9E4異痍\uF9E5移\uF9E6而耳肄苡荑\uF9E7
    4FEA:\uF9E8貽貳邇\uF9E9\uF9EA飴餌\uF9EB\uF9EC瀷益翊翌翼謚人仁刃印\uF9ED咽因姻寅引忍湮\uF9EE\uF9EF絪茵\uF9F0蚓認\uF9F1靭靷
    5010:\uF9F2\uF9F3一佚佾壹日溢逸鎰馹任壬妊姙恁\uF9F4\uF9F5稔\uF9F6荏賃入卄 5088:\uF9F7\uF9F8\uF9F9仍剩孕芿仔刺咨姉姿子字孜恣慈滋炙
    509B:煮玆瓷疵磁紫者自茨蔗藉諮資雌作勺嚼斫昨灼炸爵綽芍酌雀鵲孱棧殘潺盞岑暫潛箴簪蠶雜丈仗匠場墻壯奬將帳庄張掌暲杖樟檣欌漿牆\uF9FA獐璋章粧腸臟臧莊葬蔣薔藏裝贓醬長
    5146:障再哉在宰才材栽梓渽滓災縡裁財載齋齎爭箏諍錚佇低儲咀姐底抵杵楮樗沮渚狙猪疽箸紵苧菹著藷詛貯躇這邸雎齟勣吊嫡寂摘敵滴狄\uF9FB的積笛籍績翟荻謫賊赤跡蹟迪迹適鏑佃佺傳全典前剪塡塼
    519A:奠專展廛悛戰栓殿氈澱 5204:煎琠田甸畑癲筌箋箭篆纏詮輾轉鈿銓錢鐫電顚顫餞切截折浙癤竊節絶占岾店漸点粘霑鮎點接摺蝶丁井亭停偵呈姃定幀庭廷征情挺政整旌晶晸柾楨檉正汀淀淨渟湞瀞炡玎
    524D:珽町睛碇禎程穽精綎艇訂諪貞鄭酊釘鉦鋌錠霆靖 52C2:靜頂鼎制劑啼堤帝弟悌提梯濟祭第臍薺製諸蹄醍除際霽題齊俎兆凋助嘲弔彫措操早晁曺曹朝條棗槽漕潮照燥爪璪眺祖祚租稠窕粗糟組繰肇藻蚤
    5300:詔調趙躁造遭釣阻雕鳥族簇足鏃存尊卒拙猝倧宗從悰慫棕淙琮種終綜縱腫 5380:踪踵鍾鐘佐坐左座挫罪主住侏做姝胄呪周嗾奏宙州廚晝朱柱株注洲湊澍炷珠疇籌紂紬綢舟蛛註誅走躊輳週酎酒鑄駐竹
    53B3:粥俊儁准埈寯峻晙樽浚準濬焌畯竣蠢逡遵雋駿茁中仲衆重卽櫛楫汁葺增憎曾拯烝甑症繒蒸證贈之只 543E:咫地址志持指摯支旨智枝枳止池沚漬知砥祉祗紙肢脂至芝芷蜘誌\uF9FC贄趾遲直稙稷
    5461:織職唇嗔塵振搢晉晋桭榛殄津溱珍瑨璡畛疹盡眞瞋秦縉縝臻蔯袗診賑軫辰進鎭陣陳震侄叱姪嫉帙桎瓆疾秩窒膣蛭質跌迭斟朕\uF9FD執潗緝輯 54FC:鏶集徵懲澄且侘借叉嗟嵯差次此磋箚
    550C:\uF9FE蹉車遮捉搾着窄錯鑿齪撰澯燦璨瓚竄簒纂粲纘讚贊鑽餐饌刹察擦札紮僭參塹慘慙懺斬站讒讖倉倡創唱娼廠彰愴敞昌昶暢槍滄漲猖瘡窓脹艙菖蒼債埰寀寨彩採砦綵菜蔡采釵冊柵策
    55BA:責凄妻悽處倜\uF9FF剔尺慽戚拓擲斥滌瘠脊蹠陟隻仟千喘天川擅泉淺玔穿舛薦賤踐遷釧闡阡韆凸哲喆徹撤澈綴輟轍鐵僉尖沾添甛瞻簽籤詹諂堞妾帖捷牒疊睫諜貼輒廳晴淸聽菁請靑鯖\uFA00剃
    5609:替涕滯締諦逮遞體初剿哨憔抄招梢 5678:椒楚樵炒焦硝礁礎秒稍肖艸苕草蕉貂超酢醋醮促囑燭矗蜀觸寸忖村邨叢塚寵悤憁摠總聰蔥銃撮催崔最墜抽推椎楸樞湫皺秋芻萩諏趨追鄒酋醜錐錘鎚雛騶鰍丑
    56BC:畜祝竺筑築縮蓄蹙蹴軸逐春椿瑃出朮黜充忠沖蟲衝衷悴膵萃 5736:贅取吹嘴娶就炊翠聚脆臭趣醉驟鷲側仄厠惻測層侈値嗤峙幟恥梔治淄熾痔痴癡稚穉緇緻置致蚩輜雉馳齒則勅飭親七柒漆侵寢枕沈浸
    576F:琛砧針鍼蟄秤稱快他咤唾墮妥惰打拖朶楕舵陀馱駝倬卓啄坼\uFA01托\uFA02擢晫柝濁濯琢琸託 57F4:鐸呑嘆坦彈憚歎灘炭綻誕奪脫探眈耽貪塔搭榻宕帑湯\uFA03蕩兌台太怠態殆
    5813:汰泰笞胎苔跆邰颱\uFA04擇澤撑攄兎吐土討慟桶\uFA05痛筒統通堆槌腿褪退頹偸套妬投透鬪慝特闖坡婆巴把播擺杷波派爬琶破罷芭跛頗判坂板版瓣販辦鈑 58B2:阪八叭捌佩唄悖敗沛浿
    58BC:牌狽稗覇貝彭澎烹膨愎便偏扁片篇編翩遍鞭騙貶坪平枰萍評吠嬖幣廢弊斃肺蔽閉陛佈包匍匏咆哺圃布怖抛抱捕\uFA06泡浦疱砲胞脯苞葡蒲袍褒逋鋪飽鮑幅暴曝瀑爆\uFA07俵剽彪慓杓標漂瓢票
    590B:表豹飇飄驃 5970:品稟楓諷豊風馮彼披疲皮被避陂匹弼必泌珌畢疋筆苾馝乏逼下何厦夏廈昰河瑕荷蝦賀遐霞鰕壑學虐謔鶴寒恨悍旱汗漢澣瀚罕翰閑閒限韓割轄函含咸啣喊檻涵緘艦銜陷鹹合哈盒蛤閤
    59BE:闔陜亢伉姮嫦巷恒抗杭桁沆港缸肛航 5A2E:\uFA08\uFA09項亥偕咳垓奚孩害懈楷海瀣蟹解該諧邂駭骸劾核倖幸杏荇行享向嚮珦鄕響餉饗香噓墟虛許憲櫶獻軒歇險驗奕爀赫革俔峴弦懸晛
    5A67:泫炫玄玹現眩睍絃絢縣舷衒\uFA0A賢鉉顯孑穴血頁嫌俠協夾峽挾浹狹脅脇莢鋏頰亨兄刑型 5AEC:形泂滎瀅灐炯熒珩瑩荊螢衡逈邢鎣馨兮彗惠慧暳蕙蹊醯鞋乎互呼壕壺好岵弧戶扈昊晧毫浩淏湖
    5B15:滸澔濠濩灝狐琥瑚瓠皓祜糊縞胡芦葫蒿虎號蝴護豪鎬頀顥惑或酷婚昏混渾琿魂忽惚笏哄弘汞泓洪烘紅虹訌鴻化和嬅樺火畵 5BAA:禍禾花華話譁貨靴\uFA0B擴攫確碻穫丸喚奐宦幻患換歡晥桓渙
    5BC3:煥環紈還驩鰥活滑猾豁闊凰幌徨恍惶愰慌晃晄榥況湟滉潢煌璜皇篁簧荒蝗遑隍黃匯回廻徊恢悔懷晦會檜淮澮灰獪繪膾茴蛔誨賄劃獲宖橫鐄哮嚆孝效斅曉梟涍淆 5C68:爻肴酵驍侯候厚后吼喉嗅帿後朽
    5C76:煦珝逅勛勳塤壎焄熏燻薰訓暈薨喧暄煊萱卉喙毁彙徽揮暉煇諱輝麾休携烋畦虧恤譎鷸兇凶匈洶胸黑昕欣炘痕吃屹紇訖欠欽歆吸恰洽翕興僖凞喜噫囍姬嬉希憙憘戱晞曦熙熹熺犧禧稀羲詰"

/-- The set. -/
def set : DoubleByte where
  single? := DoubleByte.ascii?
  isLead a := 0x81 ≤ a && a ≤ 0xFE
  double? a b := if 0x41 ≤ b ∧ b ≤ 0xFE then index.lookup ((a - 0x81) * 190 + (b - 0x41)) else none

/-- Reads bytes. -/
def read (bytes : List Nat) : List Char := Piece.read (fun _ => set.front) () 0 bytes

end EucKr

end MarketDesk.Text
