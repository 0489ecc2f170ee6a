import HopProbe.Text.Charset.Index

/-!
# Korean characters

The syllables, letters and Chinese characters of two bytes.
-/

set_option autoImplicit false

namespace HopProbe.Text.Charset

/-- 190 characters behind each first byte. -/
def hangulIndex : CodeIndex := .ofText
  "갂갃갅갆갋+4갘갞갟갡갢갣갥+6갮갲갳갴-6갵갶갷갺갻갽갾갿걁+9걌걎+5걕-6걖걗걙걚걛걝+18걲걳걵걶걹걻+4겂겇겈겍겎겏겑겒겓겕+6겞겢+5겫겭겮겱+6겺겾겿곀곂곃곅곆곇곉곊
  곋곍+7곖곘+7곢곣곥곦곩곫곭곮곲곴곷+4곾곿괁괂괃괅괇+4괎괐괒+5괙괚괛괝괞괟괡+7괪괫괮+5-6괶괷괹괺괻괽+6굆굈굊+5굑굒굓굕굖굗-6굙+7굢굤+7굮굯굱굲굷+3굾궀
  궃+4궊궋궍궎궏궑+10궞+5궥+17궸+7귂귃귅귆귇귉+6귒귔+7귝귞귟귡귢귣귥+18귺귻귽귾긂+5긊긌긎+5긕+7-6긝+18긲긳긵긶긹긻긼-6긽긾긿깂깄깇깈깉깋깏깑깒깓깕
  깗+4깞깢깣깤깦깧깪깫깭깮깯깱+6깺깾+5꺆+5꺍+46꺿껁껂껃껅+6껎껒+5껚껛껝+10껩껪껬껮+5껵껶껷껹껺껻껽+8-6꼆꼉+3꼎꼏꼑+18-6꼤+7꼮꼯꼱꼳꼵+6꼾꽀꽄
  +3꽊+5꽑+10꽞+5꽦+18꽺+5꾁꾂꾃꾅꾆꾇꾉+6꾒꾓꾔꾖+5꾝+26꾺꾻꾽꾾꾿꿁+5꿊꿌꿏+4꿕+6꿝+4-6꿢+5꿪+5꿲꿳꿵꿶꿷꿹+6뀂뀃-6뀅+6뀍뀎뀏뀑뀒뀓뀕
  +6뀞+9뀩+26끆끇끉끋끍끏+3끖끘끚끛끜끞+29끾끿낁낂낃낅+6낎낐낒+5낛낝낞낣+4낪낰낲낶낷낹낺낻낽+6냆냊+5냒-6냓냕냖냗냙+6냡+3냦+10-6냱+22넊넍넎넏넑
  넔+3넚넞+4넦넧넩넪넫넭+6넶넺+5녂녃녅녆녇녉+6녒녓녖녗녙녚녛녝녞녟녡+22녺녻녽녾녿놁놃+4놊놌놎+3놕놖놗놙놚놛놝+10놩+15-6놹+18뇍뇎뇏뇑뇒뇓뇕-6뇖+5뇞
  뇠+7뇪뇫뇭뇮뇯뇱+7뇺뇼뇾+5눆눇눉눊눍+6눖눘눚+5눡+18눵+6눽+26뉙뉚뉛뉝뉞뉟뉡+6뉪+9뉶+5뉽+6늆늇늈늊+4-6늏늒늓늕늖늗늛+4늢늤늧늨늩늫늭늮늯늱늲늳늵늶
  늷-6늸+15닊닋닍닎닏닑닓+4닚닜닞+3닣닧닩닪닰닱닲닶닼닽닾댂댃댅댆댇댉+6댒댖+5댝+54덗덙덚덝덠+3덦덨덪덬덭덯덲덳덵덶덷덹+6뎂뎆+5뎍-6뎎뎏뎑뎒뎓뎕+10뎢+5
  뎩뎪뎫뎭-6뎮+21돆돇돉돊돍돏돑돒돓돖돘돚돜돞돟돡돢돣돥돦돧돩+18돽+18됑+6됙됚됛됝됞됟됡+6됪됬+7됵+26둒둓둕둖둗둙+6둢둤둦-6둧+4둭+18뒁뒂-6뒃+4뒉
  +19뒞+5뒥뒦뒧뒩뒪뒫뒭+7뒶뒸뒺+5듁듂듃듅듆듇듉+6듑+3듖+5듞듟듡듢듥듧+4듮듰듲+5듹+26딖딗딙딚딝+6딦딫+4딲딳딵딶딷딹+6땂땆-6땇+3땎땏땑땒땓땕+6땞땢
  +8-6땫+52떢떣떥떦떧떩떬+3떲떶+4떾떿뗁뗂뗃뗅+6뗎뗒+5뗙+18뗭+34똒똓똕똖똗똙+4-6똞+6똦+5똭+6똵+5-6똻+12뙉+26뙥뙦뙧뙩+50뚞뚟뚡뚢뚣뚥+5
  뚭+3뚲+33뛕+8-6뛞+17뛱뛲뛳뛵뛶뛷뛹뛺-6뛻+4뜂뜃뜄뜆+33뜪뜫뜭뜮뜱+6뜺뜼+7띅띆띇띉띊띋띍+6띖+9띡띢띣띥띦띧띩+6띲띴띶+5띾띿랁랂랃랅+6랎랓랔랕랚랛랝
  랞랟랡+6랪랮+5랶랷랹+8-6럂+4럈럊+19-6럞+13럮럯럱럲럳럵+6럾렂+4렊렋렍렎렏렑+6렚렜렞+5렦렧렩렪렫렭+6렶렺+5롁롂롃롅+11롒롔+7롞롟롡롢롣롥+6롮롰
  롲+5롹롺롻롽+15뢎+17-6뢠+7뢩+6뢱뢲뢳뢵뢶뢷뢹+4-6뢾뢿룂룄룆+5룍룎룏룑룒룓룕+7룞룠룢+5룪룫룭룮룯룱+6룺룼룾+5뤅+18뤙+6뤡+26뤾뤿륁륂륃륅+6륍륎
  륐륒+5륚륛륝륞륟륡+6륪륬륮+5륶륷륹륺륻륽-6륾+5릆릈릋릌릏+15-6릟+12릮릯릱릲릳릵+6릾맀맂+5맊맋맍맓+4맚맜맟맠맢맦맧맩맪맫맭+6맶맻+4먂+5먉+11먖
  +33먺먻먽먾먿멁멃+4멊멌멏+3멖멗멙멚멛멝+6멦멪+5-6멲멳멵멶멷멹+9몆몈+3몍+5-6몓+20몪몭몮몯몱몳+4몺몼몾+5뫅뫆뫇뫉+14뫚+33뫽뫾뫿묁묂묃묅+7묎묐묒
  +5묙묚묛묝묞묟묡+7묪묬+7묷묹묺묿+4뭆뭈뭊뭋뭌뭎뭑뭒-6뭓뭕뭖뭗뭙+7뭢뭤+7뭭+4-6뭲+21뮉뮊뮋뮍뮎뮏뮑+18뮥뮦뮧뮩뮪뮫뮭+6뮵뮶뮸+7믁믂믃믅믆믇믉+6믑믒믔
  +35믺믻믽믾밁밃+4밊밎밐밒밓밙밚밠+3밦밨밪밫밬밮밯밲밳밵-6밶밷밹+6뱂뱆뱇뱈뱊뱋뱎뱏뱑+8-6뱚뱛뱜뱞+37벆벇벉벊벍벏+4벖벘벛+4벢벣벥벦벩+6벲벶+5벾벿볁볂볃볅
  +7볎볒볓볔볖볗볙볚볛볝+22볷볹볺볻볽+6봆봈봊+5봑봒봓봕+8-6봞+5봥+6봭+12-6봺+5뵁+6뵊뵋뵍뵎뵏뵑+6뵚+9뵥뵦뵧뵩+22붂붃붅붆붋+4붒붔붖붗붘붛붝+6붥
  +10붱+6붹+26뷖뷗뷙뷚뷛뷝+11뷪+5뷱-6뷲뷳뷵뷶뷷뷹+6븁븂븄븆+5븎븏븑븒븓-6븕+6븞븠+35빆빇빉빊빋빍빏+4빖빘빜+3빢빣빥빦빧빩빫+4빲빶+4빾빿뺁뺂뺃뺅
  +6뺎뺒+5뺚+13뺩+38뻒뻓-6뻕뻖뻙+6뻡뻢뻦+5뻭+8-6뻶+10뼂+5뼊+13뼚뼞+33뽂뽃뽅뽆뽇뽉+6뽒뽓뽔뽖+61뾕+8-6뾞+17뾱+7-6뾹+11뿆+5뿎뿏뿑
  뿒뿓뿕+6뿝뿞뿠뿢+89쀽+19쁒+5쁙쁚쁛-6쁝쁞쁟쁡+6쁪+15-6쁺+21삒삓삕삖삗삙+6삢삤삦+5삮삱삲삷+4삾샂샃샄샆샇샊샋샍샎샏샑+6샚샞+5샦샧샩샪샫샭+6샶샸샺
  +5섁섂섃섅섆섇섉+6섑+3섖+5섡섢섥섨+3섮섲+3섷섺섻섽섾섿셁+6셊셎+5셖셗-6셙셚셛셝+6셦셪+5셱셲셳셵셶셷셹셺셻-6셼+8솆+5솏솑솒솓솕솗+4솞솠솢솣솤솦솧솪솫
  솭솮솯솱+11솾+5쇅쇆쇇쇉쇊쇋쇍+6쇕쇖쇙+6쇡쇢쇣쇥쇦쇧쇩+6쇲쇴+7쇾쇿숁숂숃숅+6숎숐숒+5숚숛숝숞숡+6숪숬숮숰숳숵+16-6쉆쉇쉉+6쉒쉓쉕쉖쉗쉙+6쉡+3쉦-6쉧
  +4쉮쉯쉱쉲쉳쉵+6쉾슀슂+5슊+5슑+6슙슚슜슞+5슦슧슩슪슫슮+5슶슸슺+33싞싟싡싢싥+5싮싰싲+3싷싺싽싾싿쌁+6쌊쌋쌎+4쌖쌗쌙쌚쌛쌝+6쌦쌧쌪+8-6쌳+17썆+7
  -6썎+25썪썫썭썮썯썱썳+4썺썻썾+5쎅쎆쎇쎉쎊쎋쎍+50쏁+22쏚쏛쏝쏞쏡쏣+4쏪쏫쏬쏮+5쏶쏷쏹+5-6쏿+8쐉+6쐑+9-6쐛+8쐥+6쐭쐮쐯쐱쐲쐳쐵+6쐾+9쑉+26
  쑦쑧쑩쑪쑫쑭+6쑶쑷쑸쑺+5쒁+18쒕+6쒝+26쒹쒺쒻쒽+8-6쓆+25-6쓠+8쓪+5쓲쓳쓵쓶쓷쓹쓻+3씂+9씍씎씏씑씒씓씕+6씝+10씪씫씭씮씯씱+6씺씼씾+5앆앇앋앏
  +3앖앚앛앜앟앢앣앥앦앧앩+6앲앶+5앾앿얁얂얃얅얆얈+3얎얐얒얓얔얖얙얚얛얝얞얟얡+7얪+9얶-6얷얺얿+4엋엍엏엒엓엕엖엗엙+6엢엤엦엧-6엨+3엯엱엲엳엵엸+3옂옃옄옉옊
  옋옍옎옏옑+6옚옝+6옦옧옩옪옫옯옱옲옶옸옺옼+3왂왃왅왆왇왉+6왒왖+5왞왟왡+10왭왮왰왲+5왺왻왽왾왿욁+6욊욌욎+5욖욗욙욚욛욝+6욦욨욪+5욲욳욵욶욷욻+4웂웄웆+5
  웎-6웏웑웒웓웕+6웞웟웢+5웪웫웭웮웯웱웲-6웳+4웺웻웼웾+5윆윇윉윊윋윍+6윖윘윚+5윢윣윥윦윧윩+6윲윴윶윸+3윾윿읁읂읃읅+4읋읎읐읙읚읛읝읞읟읡+6읩읪읬+7읶읷읹
  읺읻읿+3잆잋잌잍잏잒잓잕잙잛+4잢잧+4잮잯잱잲잳잵+6잾쟂+5쟊쟋쟍쟏쟑+6쟙+3-6쟞+5쟥쟦쟧쟩쟪쟫쟭+13-6쟻+4젂젃젅젆젇젉젋+4젒젔젗+4젞젟젡젢젣젥+6젮젰젲
  +5젹젺젻젽젾젿졁+6졊졋졎+5졕+26졲졳졵졶졷졹졻+4좂좄좈좉좊좎+5좕+7좞좠좢+5좩+18좾+3-6죂죃죅죆죇죉죊죋죍+6죖죘죚+5죢죣죥-6죦+14죶+5죾죿줁줂줃줇
  +4줎\u3000、。·‥…¨〃\xad―∥＼∼‘’“”〔〕〈+9±×÷≠≤≥∞∴°′″℃Å￠￡￥♂♀∠⊥⌒∂∇≡≒§※☆★○●◎◇◆□■△▲▽▼→←↑↓↔〓≪≫√∽∝∵∫∬∈
  ∋⊆⊇⊂⊃∪∩∧∨￢줐줒+5줙+18-6줭+6줵+18-6쥈+7쥒쥓쥕쥖쥗쥙+6쥢쥤+7쥭쥮쥯⇒⇔∀∃´～ˇ˘˝˚˙¸˛¡¿ː∮∑∏¤℉‰◁◀▷▶♤♠♡♥♧♣⊙◈▣◐◑▒▤▥▨
  ▧▦▩♨☏☎☜☞¶†‡↕↗↙↖↘♭♩♪♬㉿㈜№㏇™㏂㏘℡€®-23쥱쥲쥳쥵+6쥽+10즊즋즍즎즏-6즑+6즚즜즞+16-6즯+16짂짃짅짆짉짋+4짒짔짗짘짛！+58￦］+32￣
  짞짟짡짣짥짦짨+3짮짲+5짺짻짽짾짿쨁+3-6쨅쨆쨇쨊쨎+5쨕쨖쨗쨙+12-6쨦쨧쨨쨪+28ㄱ+93쩇+4쩎쩏쩑쩒쩓쩕+6쩞쩢+5쩩쩪-6쩫+17쩾+5쪅쪆-6쪇+16쪙+14
  ⅰ+9-5Ⅰ+9-7Α+16Σ+6-8α+16σ+6-6쪨+19쪾쪿쫁쫂쫃쫅-6쫆+5쫎쫐쫒쫔+3쫚+5쫡+6-6쫨+3쫭+6쫵+18쬉쬊─│┌┐┘└├┬┤┴┼━┃┏┓┛┗┣┳
  ┫┻╋┠┯┨┷┿┝┰┥┸╂┒┑┚┙┖┕┎┍┞┟┡┢┦┧┩┪┭┮┱┲┵┶┹┺┽┾╀╁╃+7-26쬋+4쬑쬒쬓쬕쬖쬗쬙+6쬢+7-6쬪+22쭂쭃쭄-6쭅쭆쭇쭊쭋쭍쭎쭏쭑+6쭚쭛쭜쭞
  +5쭥+7㎕㎖㎗ℓ㎘㏄㎣+3㎙+9㏊㎍㎎㎏㏏㎈㎉㏈㎧㎨㎰+9㎀+4㎺+5㎐+4Ω㏀㏁㎊㎋㎌㏖㏅㎭㎮㎯㏛㎩+3㏝㏐㏓㏃㏉㏜㏆-15쭭+10쭺+14-6쮉+18쮝+6-6쮤+19쮹
  +11ÆÐªĦ-1Ĳ-1ĿŁØŒºÞŦŊ-1㉠+27ⓐ+25①+14½⅓⅔¼¾⅛+3쯅+14쯕+10-6쯠+3쯥쯦쯨쯪+18-6쯽+14찎찏찑찒찓찕+6찞찟찠찣찤æđðħıĳĸ
  ŀłøœßþŧŋŉ㈀+27⒜+25⑴+14¹²³⁴ⁿ₁+3찥찦찪찫찭찯찱+6찺찿+4챆챇챉챊챋챍챎-6챏+4챖챚+5챡챢챣챥챧챩+6챱챲-6챳챴챶+29ぁ+82-11첔+3첚첛
  첝첞첟첡+6첪첮+5첶첷첹-6첺첻첽+6쳆쳈쳊+5쳑쳒쳓쳕+5-6쳛+8쳥+6쳭쳮쳯쳱+12ァ+85-8쳾쳿촀촂+5촊촋촍촎촏촑+6촚촜촞촟촠-6촡촢촣촥촦촧촩촪촫촭+11촺
  +4-6촿+28쵝쵞쵟А+5ЁЖ+25-15а+5ёж+25-13쵡쵢쵣쵥+6쵮쵰쵲+5쵹+7-6춁+6춉+10춖춗춙춚춛춝춞춟-6춠+3춦춨춪+5춱+18췅-94췆+5췍췎췏
  췑+16-6췢+5췩췪췫췭췮췯췱+6췺췼췾+4-6츃츅츆츇츉츊츋츍+6츕+3츚+5츢츣츥츦츧츩츪츫-94츬+3츲츴츶+19-6칊+13칚칛칝칞칢+5칪칬-6칮+5칶칷칹칺칻칽
  +6캆캈캊+5캒캓캕캖캗캙-94캚+5캢캦+5캮+12-6캻+5컂+19-6컖+13컦컧컩컪컭+6컶컺+5가각간갇+3감+7같+4갠갤갬갭갯갰갱갸갹갼걀걋걍걔걘걜거걱건걷걸걺검
  겁것+3겉+3겐겔겜겝겟겠겡겨격겪견겯결겸겹겻겼경곁계곈곌곕곗고곡곤곧골곪곬곯곰곱곳공곶과곽관괄괆켂켃켅켆켇켉+6켒켔켖+5켝켞켟켡켢켣-6켥+6켮켲+5켹+11-6콅+14콖
  콗콙콚콛콝+6콦콨콪콫콬괌괍괏광괘괜괠괩괬괭괴괵괸괼굄굅굇굉교굔굘굡굣구국군굳+3굻굼굽굿궁궂궈궉권궐궜궝궤궷귀귁귄귈귐귑귓규균귤그극근귿글긁금급긋긍긔기긱긴긷길긺김깁깃깅깆깊
  까깍깎깐깔깖깜깝깟깠깡깥깨깩깬깰깸콭콮콯콲콳콵콶콷콹+6쾁+3쾆+5쾍-6쾎+18쾢+5쾩-6쾪+5쾱+18쿅+6깹깻깼깽꺄꺅꺌꺼꺽꺾껀껄껌껍껏껐껑께껙껜껨껫껭껴껸껼꼇꼈꼍꼐꼬
  꼭꼰꼲꼴꼼꼽꼿꽁꽂꽃꽈꽉꽐꽜꽝꽤꽥꽹꾀꾄꾈꾐꾑꾕꾜꾸꾹꾼꿀꿇꿈꿉꿋꿍꿎꿔꿜꿨꿩꿰꿱꿴꿸뀀뀁뀄뀌뀐뀔뀜뀝뀨끄끅끈끊끌끎끓끔끕끗끙쿌+19쿢쿣쿥쿦쿧쿩-6쿪+5쿲쿴쿶+5쿽쿾쿿퀁퀂
  퀃퀅+5-6퀋+5퀒+5퀙+19끝끼끽낀낄낌낍낏낑나낙낚난낟+3남납낫+4낱낳내낵낸낼냄냅냇냈냉냐냑냔냘냠냥너넉넋넌널넒넓넘넙넛넜넝넣네넥넨넬넴넵넷넸넹녀녁년녈념녑녔녕녘녜녠노
  녹논놀놂놈놉놋농높놓놔놘놜놨뇌뇐뇔뇜뇝퀮+5퀶퀷퀹퀺퀻퀽+6큆큈큊+5-6큑큒큓큕큖큗큙+6큡+10큮큯-6큱큲큳큵+6큾큿킀킂+18뇟뇨뇩뇬뇰뇹뇻뇽누눅눈눋눌눔눕눗눙눠눴눼뉘
  뉜뉠뉨뉩뉴뉵뉼늄늅늉느늑는늘늙늚늠늡늣능늦늪늬늰늴니닉닌닐닒님닙닛닝닢다닥닦단닫+4닳담답닷+4닿대댁댄댈댐댑댓댔댕댜더덕덖던덛덜덞덟덤덥킕+14킦킧킩킪킫킭+5-6킳킶킸킺
  +5탂탃탅탆탇탊+5탒탖+4-6탛탞탟탡탢탣탥+6탮탲+5탹+11덧덩덫덮데덱덴델뎀뎁뎃뎄뎅뎌뎐뎔뎠뎡뎨뎬도독돈돋돌돎돐돔돕돗동돛돝돠돤돨돼됐되된될됨됩됫됴두둑둔둘둠둡둣둥둬뒀
  뒈뒝뒤뒨뒬뒵뒷뒹듀듄듈듐듕드득든듣들듦듬듭듯등듸디딕딘딛딜딤딥딧+3따딱딴딸턅+7턎+17-6턠+15턲턳턵턶턷턹턻+3-6턿텂텆+5텎텏텑텒텓텕+6텞텠텢+5텩텪텫텭땀땁땃땄
  땅땋때땍땐땔땜땝땟땠땡떠떡떤떨떪떫떰떱떳떴떵떻떼떽뗀뗄뗌뗍뗏뗐뗑뗘뗬또똑똔똘똥똬똴뙈뙤뙨뚜뚝뚠뚤뚫뚬뚱뛔뛰뛴뛸뜀뜁뜅뜨뜩뜬뜯뜰뜸뜹뜻띄띈띌띔띕띠띤띨띰띱띳띵라락란랄람랍랏+3랖
  랗텮+13텽+6톅톆톇톉톊-6톋+20톢톣톥톦톧-6톩+6톲톴톶+3톻톽톾톿퇁+14래랙랜랠램랩랫랬랭랴략랸럇량러럭런럴럼럽럿렀렁렇레렉렌렐렘렙렛렝려력련렬렴렵렷렸령례롄롑롓로
  록론롤롬롭롯롱롸롼뢍뢨뢰뢴뢸룀룁룃룅료룐룔룝룟룡루룩룬룰룸룹룻룽뤄뤘뤠뤼뤽륀륄륌륏륑류륙륜률륨륩퇐+7퇙+17-6퇫+8퇵퇶퇷퇹+13-6툈툊+5툑+24륫륭르륵른를름릅릇릉릊
  릍릎리릭린릴림립릿링마막만많+4맘맙맛망맞맡맣매맥맨맬맴맵맷+3먀먁먈먕머먹먼멀멂멈멉멋멍멎멓메멕멘멜멤멥멧멨멩며멱면멸몃몄명몇몌모목몫몬몰몲몸몹못몽뫄뫈뫘뫙뫼툪툫툮툯툱툲툳툵
  +6툾퉀퉂+5퉉+3-6퉍+14퉝+6퉥+3-6퉩+22튂튃튅튆튇튉+3묀묄묍묏묑묘묜묠묩묫무묵묶문묻+3뭄뭅뭇뭉뭍뭏뭐뭔뭘뭡뭣뭬뮈뮌뮐뮤뮨뮬뮴뮷므믄믈믐믓미믹민믿밀밂밈밉밋밌
  밍및밑바+4받+4밤밥밧방밭배백밴밸뱀뱁뱃뱄뱅뱉뱌뱍뱐뱝버벅번벋벌벎범법벗튍튎튏튒튓튔튖+5튝튞튟튡튢튣튥+6튭-6튮튯튰튲+5튺튻튽튾틁틃+4틊틌+5-6틒틓틕틖틗틙틚틛틝
  +6틦+9틲틳틵틶틷틹틺벙벚베벡벤벧벨벰벱벳벴벵벼벽변별볍볏볐병볕볘볜보복볶본볼봄봅봇봉봐봔봤봬뵀뵈뵉뵌뵐뵘뵙뵤뵨부북분붇+3붐붑붓붕붙붚붜붤붰붸뷔뷕뷘뷜뷩뷰뷴뷸븀븃븅브븍븐블
  븜븝븟비빅빈빌빎빔빕빗빙빚빛빠빡빤틻+4팂팄팆+5팏팑팒팓팕팗+4팞팢팣-6팤팦팧팪팫팭팮팯팱+6팺팾+5퍆+3-6퍊+31빨빪빰빱빳빴빵빻빼빽뺀뺄뺌뺍뺏뺐뺑뺘뺙뺨뻐뻑뻔뻗뻘뻠
  뻣뻤뻥뻬뼁뼈뼉뼘뼙뼛뼜뼝뽀뽁뽄뽈뽐뽑뽕뾔뾰뿅뿌뿍뿐뿔뿜뿟뿡쀼쁑쁘쁜쁠쁨쁩삐삑삔삘삠삡삣삥사삭삯산삳+3삼삽삿샀상샅새색샌샐샘샙샛샜생샤퍪+17퍾퍿펁펂펃펅펆펇-6펈+3펎펒+5
  펚펛펝펞펟펡+6펪펬펮-6펯+4펵펶펷펹펺펻펽+6폆폇폊+5폑+5샥샨샬샴샵샷샹섀섄섈섐섕서+4섣설섦섧섬섭섯섰성섶세섹센셀셈셉셋셌셍셔셕션셜셤셥셧셨셩셰셴셸솅소속솎손솔솖솜솝
  솟송솥솨솩솬솰솽쇄쇈쇌쇔쇗쇘쇠쇤쇨쇰쇱쇳쇼쇽숀숄숌숍숏숑수숙순숟술숨숩숫숭폗폙+7폢폤+7폮폯폱폲폳폵폶폷-6폸+3폾퐀퐂+5퐉+13-6퐗+5퐞+25숯숱숲숴쉈쉐쉑쉔쉘쉠쉥쉬
  쉭쉰쉴쉼쉽쉿슁슈슉슐슘슛슝스슥슨슬슭슴습슷승시식신싣실싫심십싯싱싶싸싹싻싼쌀쌈쌉쌌쌍쌓쌔쌕쌘쌜쌤쌥쌨쌩썅써썩썬썰썲썸썹썼썽쎄쎈쎌쏀쏘쏙쏜쏟쏠쏢쏨쏩쏭쏴쏵쏸쐈쐐쐤쐬쐰퐸+7푁푂푃
  푅+14-6푔+7푝푞푟푡푢푣푥+7푮푰푱푲-6푳+4푺푻푽푾풁풃+4풊풌풎+5풕+8쐴쐼쐽쑈쑤쑥쑨쑬쑴쑵쑹쒀쒔쒜쒸쒼쓩쓰쓱쓴쓸쓺쓿씀씁씌씐씔씜씨씩씬씰씸씹씻씽아악안앉않알앍앎
  앓암압앗았앙앝앞애액앤앨앰앱앳앴앵야약얀얄얇얌얍얏양얕얗얘얜얠얩어억언얹얻+3엄+6엌엎풞+10풪+14-6풹+18퓍퓎퓏퓑퓒퓓퓕-6퓖+5퓝퓞퓠+7퓩퓪퓫퓭퓮퓯퓱+6퓹퓺퓼에
  엑엔엘엠엡엣엥여역엮연열엶엷염+5옅+3옌옐옘옙옛옜오옥온올옭옮옰옳옴옵옷옹옻와왁완왈왐왑왓왔왕왜왝왠왬왯왱외왹왼욀욈욉욋욍요욕욘욜욤욥욧용우욱운울욹욺움웁웃웅워웍원월웜웝웠웡
  웨퓾+5픅픆픇픉픊픋픍+6픖픘+5-6픞+25-6픸+3픾픿핁핂핃핅+6핎핐핒+5핚핛핝핞핟핡핢핣웩웬웰웸웹웽위윅윈윌윔윕윗윙유육윤율윰윱윳융윷으윽은을읊음읍읏응+7읜읠읨읫이
  익인일읽읾잃임입잇+3잎자작잔잖잗잘잚잠잡잣+3재잭잰잴잼잽잿쟀쟁쟈쟉쟌쟎쟐쟘쟝쟤쟨쟬저적전절젊핤핦핧핪핬핮+5핶핷핹핺핻핽+6햆햊햋-6햌+3햑+19햦햧-6햨+31점접젓정
  젖제젝젠젤젬젭젯젱져젼졀졈졉졌졍졔조족존졸졺좀좁좃종좆좇좋좌좍좔좝좟좡좨좼좽죄죈죌죔죕죗죙죠죡죤죵주죽준줄줅줆줌줍줏중줘줬줴쥐쥑쥔쥘쥠쥡쥣쥬쥰쥴쥼즈즉즌즐즘즙즛증지직진짇질짊짐
  집짓헊헋헍헎헏헑헓+4헚헜헞+5헦헧헩헪헫헭헮-6헯+4헶헸헺+5혂혃혅혆혇혉+6혒-6혖+5혝혞혟혡혢혣혥+7혮+9혺혻징짖짙짚짜짝짠짢짤짧짬짭짯짰짱째짹짼쨀쨈쨉쨋쨌쨍쨔쨘쨩
  쩌쩍쩐쩔쩜쩝쩟쩠쩡쩨쩽쪄쪘쪼쪽쫀쫄쫌쫍쫏쫑쫓쫘쫙쫠쫬쫴쬈쬐쬔쬘쬠쬡쭁쭈쭉쭌쭐쭘쭙쭝쭤쭸쭹쮜쮸쯔쯤쯧쯩찌찍찐찔찜찝찡찢찧차착찬찮찰참찹찻혽혾혿홁+3홆홇홊홌홎홏홐홒홓홖홗홙홚홛홝
  +4-6홢+4홨홪+5홲홳홵+11-6횁횂횄횆+5횎횏횑횒횓횕+7횞횠횢+5횩횪찼창찾채책챈챌챔챕챗챘챙챠챤챦챨챰챵처척천철첨첩첫첬청체첵첸첼쳄쳅쳇쳉쳐쳔쳤쳬쳰촁초촉촌촐촘촙촛
  총촤촨촬촹최쵠쵤쵬쵭쵯쵱쵸춈추축춘출춤춥춧충춰췄췌췐취췬췰췸췹췻췽츄츈츌츔츙츠측츤츨츰츱츳층횫횭횮횯횱+7횺횼+7훆훇훉훊훋-6훍+3훒훓훕훖훘훚+5훡훢훣훥훦훧훩+4-6훮훯
  훱+3훶+5훾훿휁휂휃휅+11휒휓휔치칙친칟칠칡침칩칫칭카칵칸칼캄캅캇캉캐캑캔캘캠캡캣캤캥캬캭컁커컥컨컫컬컴컵컷컸컹케켁켄켈켐켑켓켕켜켠켤켬켭켯켰켱켸코콕콘콜콤콥콧콩콰콱콴콸쾀
  쾅쾌쾡쾨쾰쿄쿠쿡쿤쿨쿰쿱쿳쿵쿼퀀퀄퀑퀘퀭퀴퀵퀸퀼휕휖휗휚휛휝휞휟휡+6휪휬휮+5휶휷휹-6휺휻휽+6흅흆흈흊+5흒흓흕흚+4-6흟흢흤흦흧흨흪흫흭흮흯흱흲흳흵+6흾흿힀힂+5힊
  힋큄큅큇큉큐큔큘큠크큭큰클큼큽킁키킥킨킬킴킵킷킹타탁탄탈탉탐탑탓탔탕태택탠탤탬탭탯탰탱탸턍터턱턴털턺텀텁텃텄텅테텍텐텔템텝텟텡텨텬텼톄톈토톡톤톨톰톱톳통톺톼퇀퇘퇴퇸툇툉툐투툭툰
  툴툼툽툿퉁퉈퉜힍힎힏힑+6힚힜힞+5-78퉤튀튁튄튈튐튑튕튜튠튤튬튱트특튼튿틀틂틈틉틋틔틘틜틤틥티틱틴틸팀팁팃팅파팍팎판팔팖팜팝팟팠팡팥패팩팬팰팸팹팻팼팽퍄퍅퍼퍽펀펄펌펍펏펐펑
  페펙펜펠펨펩펫펭펴편펼폄폅폈평폐폘폡폣포폭폰폴폼폽폿퐁-96퐈퐝푀푄표푠푤푭푯푸푹푼푿풀풂품풉풋풍풔풩퓌퓐퓔퓜퓟퓨퓬퓰퓸퓻퓽프픈플픔픕픗피픽핀필핌핍핏핑하학한할핥함합핫항해핵핸
  핼햄햅햇했행햐향허헉헌헐헒험헙헛헝헤헥헨헬헴헵헷헹혀혁현혈혐협혓혔형혜혠-96혤혭호혹혼홀홅홈홉홋홍홑화확환활홧황홰홱홴횃횅회획횐횔횝횟횡효횬횰횹횻후훅훈훌훑훔훗훙훠훤훨훰훵훼
  훽휀휄휑휘휙휜휠휨휩휫휭휴휵휸휼흄흇흉흐흑흔흖+3흠흡흣흥흩희흰흴흼흽힁히힉힌힐힘힙힛힝-286伽佳假價加可呵哥嘉嫁家暇架枷柯歌珂痂稼苛茄街袈訶賈跏軻迦駕刻却各恪慤殼珏脚覺角閣
  侃刊墾奸姦干幹懇揀杆柬桿澗癎看磵稈竿簡肝艮艱諫間乫喝曷渴碣竭葛褐蝎鞨勘坎堪嵌感憾戡敢柑橄減甘疳監瞰紺邯鑑鑒龕-96匣岬甲胛鉀閘剛堈姜岡崗康强彊慷江畺疆糠絳綱羌腔舡薑襁講鋼降鱇介
  价個凱塏愷愾慨改槪漑疥皆盖箇芥蓋豈鎧開喀客坑更粳羹醵倨去居巨拒据據擧渠炬祛距踞車遽鉅鋸乾件健巾建愆楗腱虔蹇鍵騫乞傑杰桀儉劍劒檢-96瞼鈐黔劫怯迲偈憩揭擊格檄激膈覡隔堅牽犬甄絹繭
  肩見譴遣鵑抉決潔結缺訣兼慊箝謙鉗鎌京俓倞傾儆勁勍卿坰境庚徑慶憬擎敬景暻更梗涇炅烱璟璥瓊痙硬磬竟競絅經耕耿脛莖警輕逕鏡頃頸驚鯨係啓堺契季屆悸戒桂械-96棨溪界癸磎稽系繫繼計誡谿階
  鷄古叩告呱固姑孤尻庫拷攷故敲暠枯槁沽痼皐睾稿羔考股膏苦苽菰藁蠱袴誥賈辜錮雇顧高鼓哭斛曲梏穀谷鵠困坤崑昆梱棍滾琨袞鯤汨滑骨供公共功孔工恐恭拱控攻珙空蚣貢鞏串寡戈果瓜-96科菓誇課
  跨過鍋顆廓槨藿郭串冠官寬慣棺款灌琯瓘管罐菅觀貫關館刮恝括适侊光匡壙廣曠洸炚狂珖筐胱鑛卦掛罫乖傀塊壞怪愧拐槐魁宏紘肱轟交僑咬喬嬌嶠巧攪敎校橋狡皎矯絞翹膠蕎蛟較轎郊餃驕鮫丘久九仇俱
  具勾-96區口句咎嘔坵垢寇嶇廐懼拘救枸柩構歐毆毬求溝灸狗玖球瞿矩究絿耉臼舅舊苟衢謳購軀逑邱鉤銶駒驅鳩鷗龜國局菊鞠鞫麴君窘群裙軍郡堀屈掘窟宮弓穹窮芎躬倦券勸卷圈拳捲權淃眷厥獗蕨蹶
  闕机櫃潰詭軌饋句晷歸貴-96鬼龜叫圭奎揆槻珪硅窺竅糾葵規赳逵閨勻均畇筠菌鈞龜橘克剋劇戟棘極隙僅劤勤懃斤根槿瑾筋芹菫覲謹近饉契今妗擒昑檎琴禁禽芩衾衿襟金錦伋及急扱汲級給亘兢矜肯企
  伎其冀嗜器圻基埼夔奇妓寄岐崎己幾忌技旗旣-96朞期杞棋棄機欺氣汽沂淇玘琦琪璂璣畸畿碁磯祁祇祈祺箕紀綺羈耆耭肌記譏豈起錡錤飢饑騎騏驥麒緊佶吉拮桔金喫儺喇奈娜懦懶拏拿癩+5那樂+4
  諾酪+3暖欄煖爛蘭難鸞捏捺南嵐枏楠湳濫男藍襤拉-96納臘蠟衲囊娘廊+4乃來內奈柰耐冷女年撚秊念恬拈捻寧寗努勞奴弩怒擄櫓爐瑙盧+5駑魯+10濃籠聾膿農惱牢磊腦賂雷尿壘+7嫩訥杻紐
  勒+5能菱陵尼泥匿溺多茶-96丹亶但單團壇彖斷旦檀段湍短端簞緞蛋袒鄲鍛撻澾獺疸達啖坍憺擔曇淡湛潭澹痰聃膽蕁覃談譚錟沓畓答踏遝唐堂塘幢戇撞棠當糖螳黨代垈坮大對岱帶待戴擡玳臺袋貸隊
  黛宅德悳倒刀到圖堵塗導屠島嶋度徒悼挑掉搗桃-96棹櫂淘渡滔濤燾盜睹禱稻萄覩賭跳蹈逃途道都鍍陶韜毒瀆牘犢獨督禿篤纛讀墩惇敦旽暾沌焞燉豚頓乭突仝冬凍動同憧東桐棟洞潼疼瞳童胴董銅兜斗
  杜枓痘竇荳讀豆逗頭屯臀芚遁遯鈍得嶝橙燈登等藤謄鄧騰喇懶拏癩羅-96蘿螺裸邏樂洛烙珞絡落諾酪駱丹亂卵欄欒瀾爛蘭鸞剌辣嵐擥攬欖濫籃纜藍襤覽拉臘蠟廊朗浪狼琅瑯螂郞來崍徠萊冷掠略亮倆兩
  凉梁樑粮粱糧良諒輛量侶儷勵呂廬慮戾旅櫚濾礪藜蠣閭驢驪麗黎力曆歷瀝礫轢靂憐戀攣漣-96煉璉練聯蓮輦連鍊冽列劣洌烈裂廉斂殮濂簾獵令伶囹寧岺嶺怜玲笭羚翎聆逞鈴零靈領齡例澧禮醴隷勞怒撈
  擄櫓潞瀘爐盧老蘆虜路輅露魯鷺鹵碌祿綠菉錄鹿麓論壟弄朧瀧瓏籠聾儡瀨牢磊賂賚賴雷了僚寮廖料燎療瞭聊蓼-96遼鬧龍壘婁屢樓淚漏瘻累縷蔞褸鏤陋劉旒柳榴流溜瀏琉瑠留瘤硫謬類六戮陸侖倫崙淪
  綸輪律慄栗率隆勒肋凜凌楞稜綾菱陵俚利厘吏唎履悧李梨浬犁狸理璃異痢籬罹羸莉裏裡里釐離鯉吝潾燐璘藺躪隣鱗麟林淋琳臨霖砬-96立笠粒摩瑪痲碼磨馬魔麻寞幕漠膜莫邈万卍娩巒彎慢挽晩曼滿漫
  灣瞞萬蔓蠻輓饅鰻唜抹末沫茉襪靺亡妄忘忙望網罔芒茫莽輞邙埋妹媒寐昧枚梅每煤罵買賣邁魅脈貊陌驀麥孟氓猛盲盟萌冪覓免冕勉棉沔眄眠綿緬面麵滅-96蔑冥名命明暝椧溟皿瞑茗蓂螟酩銘鳴袂侮冒
  募姆帽慕摸摹暮某模母毛牟牡瑁眸矛耗芼茅謀謨貌木沐牧目睦穆鶩歿沒夢朦蒙卯墓妙廟描昴杳渺猫竗苗錨務巫憮懋戊拇撫无楙武毋無珷畝繆舞茂蕪誣貿霧鵡墨默們刎吻問文-96汶紊紋聞蚊門雯勿沕物
  味媚尾嵋彌微未梶楣渼湄眉米美薇謎迷靡黴岷悶愍憫敏旻旼民泯玟珉緡閔密蜜謐剝博拍搏撲朴樸泊珀璞箔粕縛膊舶薄迫雹駁伴半反叛拌搬攀斑槃泮潘班畔瘢盤盼磐磻礬絆般蟠返頒飯勃拔撥渤潑-96發
  跋醱鉢髮魃倣傍坊妨尨幇彷房放方旁昉枋榜滂磅紡肪膀舫芳蒡蚌訪謗邦防龐倍俳北培徘拜排杯湃焙盃背胚裴裵褙賠輩配陪伯佰帛柏栢白百魄幡樊煩燔番磻繁蕃藩飜伐筏罰閥凡帆梵氾汎泛犯範范法琺僻劈
  壁擘檗璧癖-96碧蘗闢霹便卞弁變辨辯邊別瞥鱉鼈丙倂兵屛幷昞昺柄棅炳甁病秉竝輧餠騈保堡報寶普步洑湺潽珤甫菩補褓譜輔伏僕匐卜宓復服福腹茯蔔複覆輹輻馥鰒本乶俸奉封峯峰捧棒烽熢琫縫蓬蜂
  逢鋒鳳不付俯傅剖副否咐埠夫婦-96孚孵富府復扶敷斧浮溥父符簿缶腐腑膚艀芙莩訃負賦賻赴趺部釜阜附駙鳧北分吩噴墳奔奮忿憤扮昐汾焚盆粉糞紛芬賁雰不佛弗彿拂崩朋棚硼繃鵬丕備匕匪卑妃婢庇
  悲憊扉批斐枇榧比毖毗毘沸泌琵痺砒碑秕秘粃緋翡肥-96脾臂菲蜚裨誹譬費鄙非飛鼻嚬嬪彬斌檳殯浜濱瀕牝玭貧賓頻憑氷聘騁乍事些仕伺似使俟僿史司唆嗣四士奢娑寫寺射巳師徙思捨斜斯柶査梭死沙
  泗渣瀉獅砂社祀祠私篩紗絲肆舍莎蓑蛇裟詐詞謝賜赦辭邪飼駟麝削數朔索-96傘刪山散汕珊産疝算蒜酸霰乷撒殺煞薩三參杉森渗芟蔘衫揷澁鈒颯上傷像償商喪嘗孀尙峠常床庠廂想桑橡湘爽牀狀相祥箱
  翔裳觴詳象賞霜塞璽賽嗇塞穡索色牲生甥省笙墅壻嶼序庶徐恕抒捿敍暑曙書栖棲犀瑞筮絮緖署-96胥舒薯西誓逝鋤黍鼠夕奭席惜昔晳析汐淅潟石碩蓆釋錫仙僊先善嬋宣扇敾旋渲煽琁瑄璇璿癬禪線繕羨
  腺膳船蘚蟬詵跣選銑鐥饍鮮卨屑楔泄洩渫舌薛褻設說雪齧剡暹殲纖蟾贍閃陝攝涉燮葉城姓宬性惺成星晟猩珹盛省筬-96聖聲腥誠醒世勢歲洗稅笹細說貰召嘯塑宵小少巢所掃搔昭梳沼消溯瀟炤燒甦疏疎
  瘙笑篠簫素紹蔬蕭蘇訴逍遡邵銷韶騷俗屬束涑粟續謖贖速孫巽損蓀遜飡率宋悚松淞訟誦送頌刷殺灑碎鎖衰釗修受嗽囚垂壽嫂守岫峀帥愁-96戍手授搜收數樹殊水洙漱燧狩獸琇璲瘦睡秀穗竪粹綏綬繡羞
  脩茱蒐蓚藪袖誰讐輸遂邃酬銖銹隋隧隨雖需須首髓鬚叔塾夙孰宿淑潚熟琡璹肅菽巡徇循恂旬栒楯橓殉洵淳珣盾瞬筍純脣舜荀蓴蕣詢諄醇錞順馴戌術述鉥崇崧-96嵩瑟膝蝨濕拾習褶襲丞乘僧勝升承昇繩
  蠅陞侍匙嘶始媤尸屎屍市弑恃施是時枾柴猜矢示翅蒔蓍視試詩諡豕豺埴寔式息拭植殖湜熄篒蝕識軾食飾伸侁信呻娠宸愼新晨燼申神紳腎臣莘薪藎蜃訊身辛辰迅失室實悉審尋心沁-96沈深瀋甚芯諶什十
  拾雙氏亞俄兒啞娥峨我牙芽莪蛾衙訝阿雅餓鴉鵝堊岳嶽幄惡愕握樂渥鄂鍔顎鰐齷安岸按晏案眼雁鞍顔鮟斡謁軋閼唵岩巖庵暗癌菴闇壓押狎鴨仰央怏昻殃秧鴦厓哀埃崖愛曖涯碍艾隘靄厄扼掖液縊腋額
  -96櫻罌鶯鸚也倻冶夜惹揶椰爺耶若野弱掠略約若葯蒻藥躍亮佯兩凉壤孃恙揚攘敭暘梁楊樣洋瀁煬痒瘍禳穰糧羊良襄諒讓釀陽量養圄御於漁瘀禦語馭魚齬億憶抑檍臆偃堰彦焉言諺孼蘖俺儼嚴奄掩淹嶪
  業円予余勵呂女如廬-96旅歟汝濾璵礖礪與艅茹輿轝閭餘驪麗黎亦力域役易曆歷疫繹譯轢逆驛嚥堧姸娟宴年延憐戀捐挻撚椽沇沿涎涓淵演漣烟然煙煉燃燕璉硏硯秊筵緣練縯聯衍軟輦蓮連鉛鍊鳶列劣咽
  悅涅烈熱裂說閱厭廉念捻染殮炎焰琰艶苒-96簾閻髥鹽曄獵燁葉令囹塋寧嶺嶸影怜映暎楹榮永泳渶潁濚瀛瀯煐營獰玲瑛瑩瓔盈穎纓羚聆英詠迎鈴鍈零霙靈領乂倪例刈叡曳汭濊猊睿穢芮藝蘂禮裔詣譽豫
  醴銳隸霓預五伍俉傲午吾吳嗚塢墺奧娛寤悟惡懊敖旿晤梧汚澳-96烏熬獒筽蜈誤鰲鼇屋沃獄玉鈺溫瑥瘟穩縕蘊兀壅擁瓮甕癰翁邕雍饔渦瓦窩窪臥蛙蝸訛婉完宛梡椀浣玩琓琬碗緩翫脘腕莞豌阮頑曰往旺
  枉汪王倭娃歪矮外嵬巍猥畏了僚僥凹堯夭妖姚寥寮尿嶢拗搖撓擾料曜樂橈燎燿瑤療-96窈窯繇繞耀腰蓼蟯要謠遙遼邀饒慾欲浴縟褥辱俑傭冗勇埇墉容庸慂榕涌湧溶熔瑢用甬聳茸蓉踊鎔鏞龍于佑偶優又
  友右宇寓尤愚憂旴牛玗瑀盂祐禑禹紆羽芋藕虞迂遇郵釪隅雨雩勖彧旭昱栯煜稶郁頊云暈橒殞澐熉耘芸蕓-96運隕雲韻蔚鬱亐熊雄元原員圓園垣媛嫄寃怨愿援沅洹湲源爰猿瑗苑袁轅遠阮院願鴛月越鉞位
  偉僞危圍委威尉慰暐渭爲瑋緯胃萎葦蔿蝟衛褘謂違韋魏乳侑儒兪劉唯喩孺宥幼幽庾悠惟愈愉揄攸有杻柔柚柳楡楢油洧流游溜-96濡猶猷琉瑜由留癒硫紐維臾萸裕誘諛諭踰蹂遊逾遺酉釉鍮類六堉戮毓肉
  育陸倫允奫尹崙淪潤玧胤贇輪鈗閏律+3聿戎瀜絨融隆垠恩慇殷誾銀隱乙吟淫蔭陰音飮揖泣邑凝應膺鷹依倚儀宜意懿擬椅毅疑矣義艤薏蟻衣誼-96議醫二以伊利吏夷姨履已弛彛怡易+3爾珥理異痍痢
  移罹而耳肄苡荑裏裡貽貳邇里離飴餌匿溺瀷益翊翌翼謚人仁刃印吝咽因姻寅引忍湮燐璘絪茵藺蚓認隣靭靷鱗麟一佚佾壹日溢逸鎰馹任壬妊姙恁林淋稔臨荏賃入卄-96立笠粒仍剩孕芿仔刺咨姉姿子字孜
  恣慈滋炙煮玆瓷疵磁紫者自茨蔗藉諮資雌作勺嚼斫昨灼炸爵綽芍酌雀鵲孱棧殘潺盞岑暫潛箴簪蠶雜丈仗匠場墻壯奬將帳庄張掌暲杖樟檣欌漿牆狀獐璋章粧腸臟臧莊葬蔣薔藏裝贓醬長-96障再哉在宰才
  材栽梓渽滓災縡裁財載齋齎爭箏諍錚佇低儲咀姐底抵杵楮樗沮渚狙猪疽箸紵苧菹著藷詛貯躇這邸雎齟勣吊嫡寂摘敵滴狄炙的積笛籍績翟荻謫賊赤跡蹟迪迹適鏑佃佺傳全典前剪塡塼奠專展廛悛戰栓殿氈澱
  -96煎琠田甸畑癲筌箋箭篆纏詮輾轉鈿銓錢鐫電顚顫餞切截折浙癤竊節絶占岾店漸点粘霑鮎點接摺蝶丁井亭停偵呈姃定幀庭廷征情挺政整旌晶晸柾楨檉正汀淀淨渟湞瀞炡玎珽町睛碇禎程穽精綎艇訂諪
  貞鄭酊釘鉦鋌錠霆靖-96靜頂鼎制劑啼堤帝弟悌提梯濟祭第臍薺製諸蹄醍除際霽題齊俎兆凋助嘲弔彫措操早晁曺曹朝條棗槽漕潮照燥爪璪眺祖祚租稠窕粗糟組繰肇藻蚤詔調趙躁造遭釣阻雕鳥族簇足鏃
  存尊卒拙猝倧宗從悰慫棕淙琮種終綜縱腫-96踪踵鍾鐘佐坐左座挫罪主住侏做姝胄呪周嗾奏宙州廚晝朱柱株注洲湊澍炷珠疇籌紂紬綢舟蛛註誅走躊輳週酎酒鑄駐竹粥俊儁准埈寯峻晙樽浚準濬焌畯竣蠢
  逡遵雋駿茁中仲衆重卽櫛楫汁葺增憎曾拯烝甑症繒蒸證贈之只-96咫地址志持指摯支旨智枝枳止池沚漬知砥祉祗紙肢脂至芝芷蜘誌識贄趾遲直稙稷織職唇嗔塵振搢晉晋桭榛殄津溱珍瑨璡畛疹盡眞瞋秦
  縉縝臻蔯袗診賑軫辰進鎭陣陳震侄叱姪嫉帙桎瓆疾秩窒膣蛭質跌迭斟朕什執潗緝輯-96鏶集徵懲澄且侘借叉嗟嵯差次此磋箚茶蹉車遮捉搾着窄錯鑿齪撰澯燦璨瓚竄簒纂粲纘讚贊鑽餐饌刹察擦札紮僭參
  塹慘慙懺斬站讒讖倉倡創唱娼廠彰愴敞昌昶暢槍滄漲猖瘡窓脹艙菖蒼債埰寀寨彩採砦綵菜蔡采釵冊柵策-96責凄妻悽處倜刺剔尺慽戚拓擲斥滌瘠脊蹠陟隻仟千喘天川擅泉淺玔穿舛薦賤踐遷釧闡阡韆凸
  哲喆徹撤澈綴輟轍鐵僉尖沾添甛瞻簽籤詹諂堞妾帖捷牒疊睫諜貼輒廳晴淸聽菁請靑鯖切剃替涕滯締諦逮遞體初剿哨憔抄招梢-96椒楚樵炒焦硝礁礎秒稍肖艸苕草蕉貂超酢醋醮促囑燭矗蜀觸寸忖村邨叢
  塚寵悤憁摠總聰蔥銃撮催崔最墜抽推椎楸樞湫皺秋芻萩諏趨追鄒酋醜錐錘鎚雛騶鰍丑畜祝竺筑築縮蓄蹙蹴軸逐春椿瑃出朮黜充忠沖蟲衝衷悴膵萃-96贅取吹嘴娶就炊翠聚脆臭趣醉驟鷲側仄厠惻測層侈
  値嗤峙幟恥梔治淄熾痔痴癡稚穉緇緻置致蚩輜雉馳齒則勅飭親七柒漆侵寢枕沈浸琛砧針鍼蟄秤稱快他咤唾墮妥惰打拖朶楕舵陀馱駝倬卓啄坼度托拓擢晫柝濁濯琢琸託-96鐸呑嘆坦彈憚歎灘炭綻誕奪脫
  探眈耽貪塔搭榻宕帑湯糖蕩兌台太怠態殆汰泰笞胎苔跆邰颱宅擇澤撑攄兎吐土討慟桶洞痛筒統通堆槌腿褪退頹偸套妬投透鬪慝特闖坡婆巴把播擺杷波派爬琶破罷芭跛頗判坂板版瓣販辦鈑-96阪八叭捌
  佩唄悖敗沛浿牌狽稗覇貝彭澎烹膨愎便偏扁片篇編翩遍鞭騙貶坪平枰萍評吠嬖幣廢弊斃肺蔽閉陛佈包匍匏咆哺圃布怖抛抱捕暴泡浦疱砲胞脯苞葡蒲袍褒逋鋪飽鮑幅暴曝瀑爆輻俵剽彪慓杓標漂瓢票表豹飇
  飄驃-96品稟楓諷豊風馮彼披疲皮被避陂匹弼必泌珌畢疋筆苾馝乏逼下何厦夏廈昰河瑕荷蝦賀遐霞鰕壑學虐謔鶴寒恨悍旱汗漢澣瀚罕翰閑閒限韓割轄函含咸啣喊檻涵緘艦銜陷鹹合哈盒蛤閤闔陜亢伉姮
  嫦巷恒抗杭桁沆港缸肛航-96行降項亥偕咳垓奚孩害懈楷海瀣蟹解該諧邂駭骸劾核倖幸杏荇行享向嚮珦鄕響餉饗香噓墟虛許憲櫶獻軒歇險驗奕爀赫革俔峴弦懸晛泫炫玄玹現眩睍絃絢縣舷衒見賢鉉顯孑
  穴血頁嫌俠協夾峽挾浹狹脅脇莢鋏頰亨兄刑型-96形泂滎瀅灐炯熒珩瑩荊螢衡逈邢鎣馨兮彗惠慧暳蕙蹊醯鞋乎互呼壕壺好岵弧戶扈昊晧毫浩淏湖滸澔濠濩灝狐琥瑚瓠皓祜糊縞胡芦葫蒿虎號蝴護豪鎬頀
  顥惑或酷婚昏混渾琿魂忽惚笏哄弘汞泓洪烘紅虹訌鴻化和嬅樺火畵-96禍禾花華話譁貨靴廓擴攫確碻穫丸喚奐宦幻患換歡晥桓渙煥環紈還驩鰥活滑猾豁闊凰幌徨恍惶愰慌晃晄榥況湟滉潢煌璜皇篁簧荒
  蝗遑隍黃匯回廻徊恢悔懷晦會檜淮澮灰獪繪膾茴蛔誨賄劃獲宖橫鐄哮嚆孝效斅曉梟涍淆-96爻肴酵驍侯候厚后吼喉嗅帿後朽煦珝逅勛勳塤壎焄熏燻薰訓暈薨喧暄煊萱卉喙毁彙徽揮暉煇諱輝麾休携烋畦
  虧恤譎鷸兇凶匈洶胸黑昕欣炘痕吃屹紇訖欠欽歆吸恰洽翕興僖凞喜噫囍姬嬉希憙憘戱晞曦熙熹熺犧禧稀羲詰"

end HopProbe.Text.Charset
