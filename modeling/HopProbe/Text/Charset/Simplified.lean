import HopProbe.Text.Charset.Index
import HopProbe.Text.CodeTable

/-!
# Simplified Chinese characters

Codes of two bytes have an index; codes of four bytes go through all other
characters in ranges.
-/

set_option autoImplicit false

namespace HopProbe.Text.Charset

def hanziIndex : CodeIndex := .ofText
  "丂丄丅丆丏丒丗丟丠両丣並丩丮丯丱丳丵丷丼乀乁乂乄乆乊乑乕乗乚乛乢+3乧乨乪+5乲乴+9乿+6亇亊亐亖亗亙亜亝亞亣亪亯亰亱亴亶+3亼亽亾仈仌仏仐仒仚仛仜仠仢仦仧仩仭仮仯仱仴仸仹仺仼仾
  伀伂+6伋伌伒+4伜伝伡伣伨伩伬伭伮伱伳伵伷伹伻伾+4佄佅佇+5佒佔佖佡佢佦佨佪佫佭佮佱佲併佷+3佽侀侁侂侅來侇侊侌侎侐侒侓侕侖侘侙侚侜侞侟価侢侤侫侭侰+4侶+8俀俁係俆+3俋
  俌俍俒+4俙俛俠俢俤俥俧俫俬俰俲俴+3俹俻俼俽俿+12倎倐們倓倕倖倗倛倝倞倠倢倣値倧倫倯+10倻倽倿+3偄偅偆偉偊偋偍偐+4偖+3偛偝+7偦+5偭+8偸偹偺偼偽傁+3傆傇傉+3
  傎+20傤傦傪傫傭+4傳+6傼+18僐+5僗僘僙僛+10僨+3僯+3僴僶+4僼+9儈儉儊儌+5儓+13儢+28兂兇兊兌兎兏児兒兓兗兘兙兛兝+4兣兤兦內兩兪兯兲兺兾兿冃冄円冇冊冋
  冎+3冓冔冘冚冝冞冟冡冣冦+4冭冮冴冸冹冺冾冿凁凂凃凅凈凊凍凎凐凒+8凜凞凟凢凣凥+5凬凮凱凲凴凷凾刄刅刉刋刌刏刐刓刔刕刜刞刟刡刢刣別刦刧刪刬刯刱刲刴刵刼刾剄+5剋剎剏剒剓剕剗
  +4剝剟剠剢剣剤剦剨剫+3剰剱剳+9剾劀劃+4劉+6劑劒劔+6劜劤+3劮劯劰労+9勀勁勂勄勅勆勈勊勌+3勑勓勔動勗務+5勠+3勥+10勱+7勻勼勽匁+3匇匉+3匎匑+3匘匛匜匞
  匟匢匤匥匧匨匩匫匬匭匯+9匼匽區卂卄卆卋卌卍卐協単卙卛卝卥卨卪卬卭卲卶卹卻+3厀厁厃厇厈厊厎+6厖厗厙厛厜厞厠厡厤厧厪+3厯+6厷+3厼厽厾叀參+4収叏叐叒叓叕叚叜叝叞叡叢叧叴
  叺叾叿吀吂吅吇吋吔吘吙吚吜吢吤吥吪吰吳吶吷吺吽吿呁呂呄呅呇呉呌+3呑呚呝+4呣呥呧呩+7呴呹呺呾呿咁咃咅咇+3咍咑咓咗咘咜咞+4咥咮咰咲咵咶咷咹咺咼咾哃哅哊哋哖哘哛哠+4哫哬哯
  哰哱哴+5哻哾唀唂+3唈唊+4唒唓唕+5唜+3唡唥唦唨唩唫唭唲唴唵唶唸+3唽啀啂啅啇啈啋+4啑+3啗+4啝+3啢啣啨啩啫啯+5啹啺啽啿喅喆喌喍喎喐喒喓喕喖喗喚喛喞喠+6喨+8喲
  喴営喸喺喼喿+4嗆嗇嗈嗊嗋嗎嗏嗐嗕嗗+4嗞嗠嗢嗧嗩嗭嗮嗰嗱嗴嗶嗸+4嗿嘂+5嘊嘋嘍嘐+7嘙嘚嘜嘝嘠嘡嘢嘥嘦嘨+3嘮嘯嘰嘳嘵嘷嘸嘺嘼嘽嘾噀+11噏+4噕噖噚噛噝+4噣噥噦噧噭+3
  噲+3噷+3噽+7嚇+6嚐嚑嚒嚔+14嚤+10嚰+6嚸+3嚽+12囋+8囕囖囘囙囜団囥+5囬囮囯囲図囶囷囸囻囼圀圁圂圅圇國+16圝圞圠圡圢圤+3圫圱圲圴+4圼圽圿坁坃+3坈坉坋
  坒+4坘坙坢坣坥坧坬坮坰坱坲坴坵坸坹坺坽+4垇+3垍+4垔+6垜+3垥垨垪垬垯垰垱垳垵垶垷垹+8埄+6埌埍埐埑埓埖埗埛埜埞埡埢埣埥+7埮埰+3埵埶執埻埼埾埿堁堃堄堅堈堉堊堌堎堏
  堐堒堓堔堖堗堘堚+3堟堢堣堥+4堫+4報+3堶+13塅+6塎塏塐塒塓塕塖塗塙+4塟+5塦+4塭+16塿墂墄墆墇墈墊+7墔+4墛墜墝墠+7墪+17墽+3壂壃壄壆+10壒壓壔壖
  +13壥+5壭壯壱売壴壵壷壸壺+7夃夅夆夈+4夎夐+3夗夘夛夝夞夠+3夦夨夬夰夲夳夵夶夻夽+3奃奅奆奊奌奍奐奒奓奙奛+4奡奣奤奦+12奵奷奺奻奼奾奿妀妅妉妋妌妎+3妔妕妘妚+3
  妟+3妦妧妬妭妰妱妳+5妺妼妽妿+6姇姈姉姌+3姕姖姙姛姞+4姤姦姧姩姪姫姭+11姺姼姽姾娀娂娊娋娍+3娒娔+3娙娚娛娝娞娡娢娤娦娧娨娪+6娳娵娷+4娽娾娿婁+4婇婈婋+9婖
  +3婛+6婣+3婨婩婫+8婸婹婻+3媀+17媓+6媜+13媫+6媴媶媷媹+4媿嫀嫃+5嫊嫋嫍+4嫓嫕嫗嫙嫚嫛嫝嫞嫟嫢嫤嫥嫧嫨嫪嫬+4嫲+22嬊+11嬘+25嬳嬵嬶嬸+7孁+14
  孒孖孞孠孡孧孨孫孭孮孯孲孴孶+3孻孼孾孿宂宆宊宍宎宐宑宒宔宖実宧宨宩宬+3宱宲宷宺宻宼寀寁寃寈+3寍寎寏寑寔+8寠寢寣實寧審+4寯寱+6寽対尀専尃尅將專尋+3尐尒尓尗尙尛尞+3
  尣尦尨+3尭+3尲尳尵尶尷屃屄屆屇屌屍屒屓屔屖屗屘屚+3屟屢層屧+6屰屲+6屻+3岀岃+4岉岊岋岎岏岒岓岕岝+4岤+4岪岮岯岰岲岴岶岹+3岾峀峂峃峅+5峌+5峓+5峚+6峢峣峧
  峩峫峬峮峯峱+9峼+5崄崅崈+5崏+4崕崗+3崜崝崟+4崥崨崪崫崬崯+4崵+7崿+7嵈嵉嵍+10嵙嵚嵜嵞+10嵪嵭嵮嵰+3嵵+12嶃+21嶚嶛嶜嶞+24嶸+12巆+6巎+12巜
  巟巠巣巤巪巬巭巰巵巶巸+4巿帀帄帇帉帊帋帍帎帒帓帗帞+7帨+4帯帰帲+4帹帺帾+3幃幆+5幍+6幖+4幜幝幟幠幣+14幵幷幹幾庁庂広庅庈庉庌庍庎庒庘庛庝庡+3庨+4庮+4庴庺
  +3庿+9廋+5廔廕廗+3廜+11廩廫+8廵廸廹廻廼廽弅弆弇弉弌弍弎弐弒弔弖弙弚弜弝弞弡+3弨弫弬弮弰弲+6弻弽弾弿彁+14彑彔彙+3彞彟彠彣彥彧彨彫彮彯彲彴彵彶彸彺彽彾彿徃徆
  徍徎徏徑従徔徖徚徛徝+3徢+5復徫徬徯+5徶徸+3徾+4忇忈忊忋忎忓忔忕忚忛応忞忟忢忣忥忦忨忩忬忯忰忲忳忴忶忷忹忺忼怇怈怉怋怌怐怑怓怗怘怚怞怟怢怣怤怬怭怮怰+4怶+4怽怾恀恄
  +6恌恎恏恑恓恔恖恗恘恛恜恞+3恥恦恮恱恲恴恵恷恾悀悁悂悅+3悊悋悎+3悓悕悗悘悙悜悞悡悢悤悥悧悩悪悮悰悳悵悶悷悹悺悽+7惇惈惉惌+4惒惓惔惖惗惙惛惞惡+4惪惱惲惵惷惸惻+4愂
  +3愇愊愋愌愐+4愖+3愛+3愡愢愥愨愩愪愬+18慀+7慉態慍慏慐慒慓慔慖+6慞+3慣+3慩+6慱+3慶慸+18憌憍憏+4憕+7憞+8憪憫憭+9憸+5憿懀懁懃+4應懌+4懓懕
  +16懧+13懶+8戀+5戇戉戓戔戙戜戝戞戠戣戦+3戫戭戯+3戵戶戸+4扂扄扅扆扊扏扐払扖扗扙扚扜+6扤扥扨扱扲扴扵扷扸扺扻扽抁抂抃抅+3抋+5抔抙抜抝択抣抦抧抩抪抭+3抲抳抴
  抶抷抸抺抾拀拁拃拋拏拑拕拝拞拠拡拤拪拫拰拲拵拸+3挀挃+3挊+3挏挐挒+3挗挘挙挜挦挧挩挬挭挮挰挱挳+5挻挼挾+3捄捇捈捊捑+3捖+7捠捤捥捦捨捪捫捬捯捰捲+3捸捹捼+3掁掃
  +3掋掍掑掓掔掕掗掙+6採掤掦掫掯掱掲掵掶掹掻掽掿+4揅揇揈揊揋揌揑揓揔揕揗+6揟揢揤+4揫揬揮+3揳揵揷揹+3揾搃搄搆+4損搎搑搒搕+5搝搟搢+3搧搨搩搫搮+5搵+4搻搼搾摀
  摂摃摉摋+6摓摕摖摗摙+4摟+7摨摪摫摬摮+9摻+6撃撆撈+8撓撔撗撘撚+3撟+4撥+3撪撫撯撱+3撶撹撻撽撾撿擁擃擄擆+6擏擑擓+3擙+4擟擠擡擣擥擧+24攁+7攊+7攓+4
  攙+11攦+4攬攭攰+3攷攺攼攽敀+4敆敇敊敋敍敎敐敒敓敔敗敘敚敜敟敠敡敤敥敧+3敭敮敯敱敳敵敶數+14斈斉斊斍斎斏斒斔斕斖斘斚斝斞斠斢斣斦斨斪斬斮斱+7斺斻斾斿旀旂旇+3旍旐
  旑旓旔旕旘+7旡旣旤旪旫旲+3旸旹旻+4昁昄昅昇昈昉昋昍昐昑昒昖昗昘昚昛昜昞昡+3昦昩+3昮昰昲昳昷+4昽昿晀時晄+6晍晎晐晑晘晙晛+3晠晢晣晥晧晩+4晱晲晳晵晸晹晻晼晽晿暀暁
  暃暅暆暈+3暍+3暒+3暘+4暞+8暩+4暯+4暵+3暺+3暿+25曚曞+7曧曨曪+5曱曵曶書曺曻曽朁+6朌朎朏朑朒朓朖朘朙朚朜朞朠+5朧朩朮朰朲朳朶+3朻朼朾朿杁杄杅杇杊杋杍
  杒杔杕杗+4杝杢杣杤杦杧杫杬杮東杴杶杸+3杽枀枂枃枅枆枈枊枌+3枑+3枖枙枛枟枠枡枤枦枩枬枮枱枲枴枹+7柂柅+9柕柖柗柛柟柡柣柤柦柧柨柪柫柭柮柲柵+7柾栁+3栆栍栐栒栔栕栘+4
  栞栟栠栢+6栫+6栴栵栶栺栻栿桇桋桍桏桒桖+9桪桬+7桵桸+8梂梄梇+7梐梑梒梔梕梖梘+9梣梤梥梩+3梮梱梲梴梶+9棁棃+5棊棌棎+3棓棔棖棗棙棛+4棡棢棤+9棯棲棳棴棶棷棸棻
  棽+3椂椃椄椆+4椌椏椑椓+11椡椢椣椥+7椮椯椱椲椳椵+3椺椻椼椾楀楁楃+16楕楖楘楙楛楜楟楡楢楤楥楧+3楬業楯楰楲+4楺楻楽楾楿榁榃榅榊榋榌榎+5榖榗榙榚榝+9榩榪榬榮榯榰
  榲榳榵榶榸榹榺榼+4槂+7構槍槏槑槒槓槕+5槜槝槞槡+11槮+3槳+9槾樀+9樋+11標+5樠樢+5権樫+3樰樲樳樴樶+6樿+4橅橆橈+7橑+6橚橜+4橢橣橤橦+10橲+6橺橻
  橽橾橿檁檂檃檅+8檏檒+4檘+7檡+7檪檭+114欥欦欨+9欳+3欸欻欼欽欿+3歄歅歈歊歋歍+11歚+7歨歩歫+13歺歽+3殅殈殌殎+3殔殕殗殘殙殜+4殢+7殫+7殶殸+6毀毃
  毄毆+4毌毎毐毑毘毚毜+4毢+7毬毭毮毰毱毲毴毶毷毸毺毻毼毾+6氈+4氎氒気氜氝氞氠氣氥氫氬氭氱氳氶氷氹+3氾氿汃汄汅汈汋+4汑汒汓汖汘汙汚汢汣汥汦汧汫+4汱汳汵汷汸決汻汼汿沀
  沄沇沊沋沍沎沑沒沕+3沚沜沝沞沠沢沨沬沯沰沴+3沺泀+3泆泇泈泋泍泎泏泑泒泘泙泚泜泝泟泤泦泧泩泬泭泲泴泹泿洀洂洃洅洆洈洉洊洍洏洐洑洓+3洘洜洝洟+5洦洨洩洬洭洯洰洴洶洷洸洺洿浀
  浂浄浉浌浐浕+3浛浝浟浡浢浤浥浧浨浫浬浭浰+3浵浶浹浺浻浽+4涃涄涆涇涊涋涍涏涐涒涖+4涜涢涥涬涭涰涱涳涴涶涷涹+5淁淂淃淈淉淊淍+3淒+3淗淚淛淜淟淢淣淥淧+3淭淯淰淲淴淵淶
  淸淺淽+7渆+3渋渏渒渓渕渘渙減渜渞渟渢渦渧渨渪測渮渰渱渳渵渶渷渹渻+7湅+7湏+3湕湗湙湚湜湝湞湠+10湬湭湯+14満溁溂溄溇溈溊+4溑+6溙溚溛溝溞溠溡溣溤溦溨溩溫+3溰溳
  溵溸溹溼溾溿滀滃+3滈滉滊滌滍滎滐滒滖滘滙滛滜滝滣滧滪+9滵+3滺+7漃漄漅漇漈漊+4漐漑漒漖+9漡漢漣漥+3漬漮漰漲漴漵漷+6漿+6潈潉潊潌潎+9潙潚潛潝潟潠潡潣潤潥潧+5潯
  潰潱潳潵潶潷潹潻潽+6澅澆澇澊澋澏+12澝+3澢+4澨+10澴澵澷澸澺+5濁濃+5濊+6濓+10濟濢+11濰+32瀒+7瀜+6瀤+16瀶瀷瀸瀺+17灍灎灐+13灟+11灮灱+3
  灷灹灺灻災炁+3炆炇炈炋炌炍炏炐炑炓炗炘炚炛炞+12炰炲炴炵炶為炾炿烄+3烉烋+12烚烜烝烞烠+3烥烪烮烰+6烸烺烻烼烾+10焋+4焑焒焔焗焛+10焧+7焲+3焷+13煆+3煋
  煍煏+12煝煟+4煥煩+4煯煰煱煴+3煹煻煼煾+5熅+4熋+3熐+3熕熖熗熚+4熡+6熩熪熫熭+5熴熶熷熸熺+8燄+9燏+4燖+9燡+3燦燨+5燯+9燺+11爇+21爞+9爩爫
  爭爮爯爲爳爴爺爼爾牀+6牉牊牋牎+3牓牔牕牗牘牚牜牞牠牣牤牥牨牪+3牰牱牳牴牶牷牸牻牼牽犂犃犅+4犌犎犐犑犓+11犠+11犮犱犲犳犵犺+6狅狆狇狉+3狏狑狓+3狘狚狛
  \ue4c6+95\u3000、。·ˉˇ¨〃々—～‖…‘’“”〔〕〈+7〖〗【】±×÷∶∧∨∑∏∪∩∈∷√⊥∥∠⌒⊙∫∮≡≌≈∽∝≠≮≯≤≥∞∵∴♂♀°′″℃＄¤￠￡‰§№☆★
  ○●◎◇◆□■△▲※→←↑↓〓\ue526+95ⅰ+9\ue766+5⒈+19⑴+19①+9€\ue76d㈠+9\ue76e\ue76fⅠ+11\ue770\ue771
  \ue586+94\u3000！＂＃￥％+88￣\ue5e6+95ぁ+82\ue772+10\ue646+95ァ+85\ue77d+7\ue6a6+95Α+16Σ+6
  \ue785+7α+16σ+6︐︒︑︓+3︵︶︹︺︿﹀︽︾﹁+3︗︘︻︼︷︸︱︙︳︴\ue797+8\ue706+95А+5ЁЖ+25\ue7a0+14а+5ёж+25
  \ue7af+12ˊˋ˙–―‥‵℅℉↖+3∕∟∣≒≦≧⊿═+35▁+14▓▔▕▼▽◢+3☉⊕〒〝〞\ue7bc+10āáǎàēéěèīíǐìōóǒòūúǔùǖǘǚǜüêɑḿńň
  ǹɡ\ue7c9+3ㄅ+36\ue7cd+20〡+8㊣㎎㎏㎜㎝㎞㎡㏄㏎㏑㏒㏕︰￢￤\ue7e2℡㈱\ue7e3‐\ue7e4\ue7e5\ue7e6ー゛゜ヽヾ〆ゝゞ﹉+9﹔+3
  ﹙+13﹨+3〾⿰+11〇\ue7f4+12─+75\ue801+14狜狝狟狢+5狪狫狵狶狹狽+3猂猄+5猋猌猍猏+3猔猘猙猚猟猠猣猤猦猧猨猭猯猰猲猳猵猶猺+3獀+12獎獏獑獓
  +3獘+7獡+10獮獰獱\ue000+93獲+11獿+4玅玆玈玊玌玍玏玐玒+3玗+3玜玝玞玠玡玣+5玪玬玭玱玴玵玶玸玹玼+3珁珃+4珋珌珎珒+6珚+3珟珡+3珦珨珪珫珬珮+3珳
  +4\ue05e+93珸+10琄琇琈琋+3琑+8琜+5琣琤琧琩琫琭琯琱琲琷+4琽+3瑂+18瑖瑘瑝瑠+12瑮瑯瑱+4瑸瑹瑺\ue0bc+93瑻瑼瑽瑿璂璄璅璆璈璉璊璌璍璏璑+10
  璝璟+7璪+15璻+22瓓+8瓝瓟瓡瓥瓧+6瓰瓱瓲\ue11a+93瓳瓵瓸+6甀+3甅+7甎甐甒甔+3甛甝甞甠+4甦甧甪甮甴甶甹甼甽甿畁+3畆畇畉畊畍畐+3畕+3畝+7畧畨畩畫
  +6畳畵當畷畺+4疀疁疂疄疅疇\ue178+93疈疉疊疌疍疎疐疓疕疘疛疜疞疢疦+4疭疶疷疺疻疿痀痁痆痋痌痎+3痓痗痙痚痜痝痟痠痡痥痩痬+3痲痳痵+3痺痻痽痾瘂瘄瘆+3瘋瘍瘎瘏瘑
  +3瘖瘚瘜瘝瘞瘡瘣瘧瘨瘬瘮瘯瘱瘲瘶瘷瘹瘺瘻瘽癁療癄\ue1d6+93癅+6癎+5癕癗+4癝癟+3癤+6癬癭癮癰+7癹発發癿皀皁皃皅皉皊皌皍皏皐皒皔皕皗皘皚+9皥+8皯皰皳皵+9
  盀盁盃啊阿埃挨哎唉哀皑癌蔼矮艾碍爱隘鞍氨安俺按暗岸胺案肮昂盎凹敖熬翱袄傲奥懊澳芭捌扒叭吧笆八疤巴拔跋靶把耙坝霸罢爸白柏百摆佰败拜稗斑班搬扳般颁板版扮拌伴瓣半办绊邦帮梆榜膀绑棒磅
  蚌镑傍谤苞胞包褒剥盄盇盉盋盌盓盕盙盚盜盝盞盠+4盦+7盰盳盵盶盷盺盻盽盿眀眂眃眅眆眊県眎+10眛+3眡眣眤眥眧眪眫眬眮眰+4眹眻眽眾眿睂睄睅睆睈+7睒+7睜薄雹保堡饱宝抱报暴豹
  鲍爆杯碑悲卑北辈背贝钡倍狈备惫焙被奔苯本笨崩绷甭泵蹦迸逼鼻比鄙笔彼碧蓖蔽毕毙毖币庇痹闭敝弊必辟壁臂避陛鞭边编贬扁便变卞辨辩辫遍标彪膘表鳖憋别瘪彬斌濒滨宾摈兵冰柄丙秉饼炳睝+3睤
  睧睩睪睭+11睺睻睼瞁瞂瞃瞆+5瞏瞐瞓+11瞡瞣瞤瞦瞨瞫瞭瞮瞯瞱瞲瞴瞶+4瞼瞾矀+12矎+8矘矙矚矝+4矤病并玻菠播拨钵波博勃搏铂箔伯帛舶脖膊渤泊驳捕卜哺补埠不布步簿部怖擦猜裁
  材才财睬踩采彩菜蔡餐参蚕残惭惨灿苍舱仓沧藏操糙槽曹草厕策侧册测层蹭插叉茬茶查碴搽察岔差诧拆柴豺搀掺蝉馋谗缠铲产阐颤昌猖矦矨矪矯+3矴矵矷矹+3砃+5砊砋砎砏砐砓砕砙砛砞砠砡砢砤
  砨砪砫砮砯砱砲砳砵砶砽砿硁+3硆硈+3硍硏硑硓硔硘+4硞+11硯+7硸+3硽+6场尝常长偿肠厂敞畅唱倡超抄钞朝嘲潮巢吵炒车扯撤掣彻澈郴臣辰尘晨忱沉陈趁衬撑称城橙成呈乘程惩澄诚承
  逞骋秤吃痴持匙池迟弛驰耻齿侈尺赤翅斥炽充冲虫崇宠抽酬畴踌稠愁筹仇绸瞅丑臭初出橱厨躇锄雏滁除楚碄碅碆碈碊碋碏碐碒碔碕碖碙碝碞碠碢碤碦碨+7碵+3確+3碿磀磂磃磄磆磇磈磌+3磑磒磓
  磖磗磘磚+13磩磪磫磭+4磳磵磶磸磹磻+5礂礃礄礆+6础储矗搐触处揣川穿椽传船喘串疮窗幢床闯创吹炊捶锤垂春椿醇唇淳纯蠢戳绰疵茨磁雌辞慈瓷词此刺赐次聪葱囱匆从丛凑粗醋簇促蹿篡窜摧
  崔催脆瘁粹淬翠村存寸磋撮搓措挫错搭达答瘩打大呆歹傣戴带殆代贷袋待逮礍+5礔+9礟+4礥+14礵+4礽礿祂+3祇祊+8祔祕祘祙祡祣祤祦祩+3祮祰+6祹祻+4禂禃禆+3禋+3禐禑禒
  怠耽担丹单郸掸胆旦氮但惮淡诞弹蛋当挡党荡档刀捣蹈倒岛祷导到稻悼道盗德得的蹬灯登等瞪凳邓堤低滴迪敌笛狄涤翟嫡抵底地蒂第帝弟递缔颠掂滇碘点典靛垫电佃甸店惦奠淀殿碉叼雕凋刁掉吊钓调跌
  爹碟蝶迭谍叠禓+6禛+11禨+10禴+4禼禿秂秄秅秇秈秊秌秎秏秐秓秔秖秗秙+5秠秡秢秥秨秪秬秮秱+6秹秺秼秾秿稁稄稅稇+3稌稏+4稕稖稘稙稛稜丁盯叮钉顶鼎锭定订丢东冬董懂动栋侗
  恫冻洞兜抖斗陡豆逗痘都督毒犊独读堵睹赌杜镀肚度渡妒端短锻段断缎堆兑队对墩吨蹲敦顿囤钝盾遁掇哆多夺垛躲朵跺舵剁惰堕蛾峨鹅俄额讹娥恶厄扼遏鄂饿恩而儿耳尔饵洱二稝稟稡稢稤+14稴稵稶
  稸稺稾穀+5穇+9穒+4穘+23穱穲穳穵穻+3窂窅窇窉+3窎窏窐窓窔窙窚窛窞窡窢贰发罚筏伐乏阀法珐藩帆番翻樊矾钒繁凡烦反返范贩犯饭泛坊芳方肪房防妨仿访纺放菲非啡飞肥匪诽吠肺废沸
  费芬酚吩氛分纷坟焚汾粉奋份忿愤粪丰封枫蜂峰锋风疯烽逢冯缝讽奉凤佛否夫敷肤孵扶拂辐幅氟符伏俘服窣窤窧窩窪窫窮+4窴+10竀+10竌+9竗竘竚+3竡竢竤竧+5竮竰+8竻竼竾笀笁笂笅
  笇笉笌笍笎笐笒笓笖笗笘笚笜笝笟笡笢笣笧笩笭浮涪福袱弗甫抚辅俯釜斧脯腑府腐赴副覆赋复傅付阜父腹负富讣附妇缚咐噶嘎该改概钙盖溉干甘杆柑竿肝赶感秆敢赣冈刚钢缸肛纲岗港杠篙皋高膏羔糕搞
  镐稿告哥歌搁戈鸽胳疙割革葛格蛤阁隔铬个各给根跟耕更庚羹笯笰笲笴+3笹笻笽笿+5筆筈筊筍筎筓筕筗筙筜筞筟筡筣+10筯筰筳筴筶筸筺筼筽筿箁+3箆+6箎箏箑箒箓箖箘+3箞箟箠箣箤箥箮
  箯箰箲箳箵箶箷箹+7篂篃範埂耿梗工攻功恭龚供躬公宫弓巩汞拱贡共钩勾沟苟狗垢构购够辜菇咕箍估沽孤姑鼓古蛊骨谷股故顾固雇刮瓜剐寡挂褂乖拐怪棺关官冠观管馆罐惯灌贯光广逛瑰规圭硅归龟闺
  轨鬼诡癸桂柜跪贵刽辊滚棍锅郭国果裹过哈篅篈+3篍+3篒篔+4篛篜篞篟篠篢篣篤篧篨篩篫篬篭篯篰篲+4篸+3篽篿+7簈簉簊簍簎簐+5簗+7簠+5簨簩簫+12簹+5籂骸孩海氦亥害骇酣
  憨邯韩含涵寒函喊罕翰撼捍旱憾悍焊汗汉夯杭航壕嚎豪毫郝好耗号浩呵喝荷菏核禾和何合盒貉阂河涸赫褐鹤贺嘿黑痕很狠恨哼亨横衡恒轰哄烘虹鸿洪宏弘红喉侯猴吼厚候后呼乎忽瑚壶葫胡蝴狐糊湖籃
  +9籎+36籵+5籾+10粊+6粓粔粖粙粚粛粠粡粣粦+3粫粬粭粯粰粴+4粺粻弧虎唬护互沪户花哗华猾滑画划化话槐徊怀淮坏欢环桓还缓换患唤痪豢焕涣宦幻荒慌黄磺蝗簧皇凰惶煌晃幌恍谎灰
  挥辉徽恢蛔回毁悔慧卉惠晦贿秽会烩汇讳诲绘荤昏婚魂浑混豁活伙火获或惑霍货祸击圾基机畸稽积箕粿糀糂糃糄糆糉糋糎+6糘糚糛糝糞糡+6糩+5糰+7糹糺糼+13紋+20紡紣+3紨紩紪紬紭
  紮細+6肌饥迹激讥鸡姬绩缉吉极棘辑籍集及急疾汲即嫉级挤几脊己蓟技冀季伎祭剂悸济寄寂计记既忌际妓继纪嘉枷夹佳家加荚颊贾甲钾假稼价架驾嫁歼监坚尖笺间煎兼肩艰奸缄茧检柬碱硷拣捡简俭剪
  减荐槛鉴践贱见键箭件紷+54絯+7絸+32健舰剑饯渐溅涧建僵姜将浆江疆蒋桨奖讲匠酱降蕉椒礁焦胶交郊浇骄娇嚼搅铰矫侥脚狡角饺缴绞剿教酵轿较叫窖揭接皆秸街阶截劫节桔杰捷睫竭洁结解姐
  戒藉芥界借介疥诫届巾筋斤金今津襟紧锦仅谨进靳晋禁近烬浸継+12綧+6綯+75尽劲荆兢茎睛晶鲸京惊精粳经井警景颈静境敬镜径痉靖竟竞净炯窘揪究纠玖韭久灸九酒厩救旧臼舅咎就疚鞠拘狙疽
  居驹菊局咀矩举沮聚拒据巨具距踞锯俱句惧炬剧捐鹃娟倦眷卷绢撅攫抉掘倔爵觉决诀绝均菌钧军君峻緻+63縼+4繂+4繈+21俊竣浚郡骏喀咖卡咯开揩楷凯慨刊堪勘坎砍看康慷糠扛抗亢炕考拷烤
  靠坷苛柯棵磕颗科壳咳可渴克刻客课肯啃垦恳坑吭空恐孔控抠口扣寇枯哭窟苦酷库裤夸垮挎跨胯块筷侩快宽款匡筐狂框矿眶旷况亏盔岿窥葵奎魁傀繞+35纃+23纜纝纞纮纴纻纼绖绤绬绹缊缐缞缷缹
  缻+6罃罆+9罒罓馈愧溃坤昆捆困括扩廓阔垃拉喇蜡腊辣啦莱来赖蓝婪栏拦篮阑兰澜谰揽览懒缆烂滥琅榔狼廊郎朗浪捞劳牢老佬姥酪烙涝勒乐雷镭蕾磊累儡垒擂肋类泪棱楞冷厘梨犁黎篱狸离漓理李里
  鲤礼莉荔吏栗丽厉励砾历利傈例俐罖罙罛+3罠罣+4罫罬罭罯罰罳罵+3罺+3罿羀羂+7羋羍羏+4羕+4羛羜羠羢羣羥羦羨+6羱羳+4羺羻羾翀翂翃翄翆+3翋翍翏+4翖翗翙+5翢翣痢立粒
  沥隶力璃哩俩联莲连镰廉怜涟帘敛脸链恋炼练粮凉梁粱良两辆量晾亮谅撩聊僚疗燎寥辽潦了撂镣廖料列裂烈劣猎琳林磷霖临邻鳞淋凛赁吝拎玲菱零龄铃伶羚凌灵陵岭领另令溜琉榴硫馏留刘瘤流柳六龙聋
  咙笼窿翤翧翨翪+3翯翲翴+6翽翾翿耂耇+3耎耏耑耓耚耛耝耞耟耡耣耤耫+5耲耴耹耺耼耾聀聁聄聅聇聈聉聎+3聓聕聖聗聙聛+13聫+5聲+11隆垄拢陇楼娄搂篓漏陋芦卢颅庐炉掳卤虏鲁麓
  碌露路赂鹿潞禄录陆戮驴吕铝侣旅履屡缕虑氯律率滤绿峦挛孪滦卵乱掠略抡轮伦仑沦纶论萝螺罗逻锣箩骡裸落洛骆络妈麻玛码蚂马骂嘛吗埋买麦卖迈脉瞒馒蛮满蔓曼慢漫聾肁肂肅肈肊肍+5肔肕肗肙肞
  肣肦肧肨肬肰肳肵肶肸肹肻胅胇+4胏+6胘胟胠胢胣胦胮胵胷胹胻胾+3脃脄脅脇脈脋脌脕脗脙脛脜脝脟+12脭脮脰脳脴脵脷脹+4脿谩芒茫盲氓忙莽猫茅锚毛矛铆卯茂冒帽貌贸么玫枚梅酶霉煤没
  眉媒镁每美昧寐妹媚门闷们萌蒙檬盟锰猛梦孟眯醚靡糜迷谜弥米秘觅泌蜜密幂棉眠绵冕免勉娩缅面苗描瞄藐秒渺庙妙蔑灭民抿皿敏悯闽明螟鸣铭名命谬摸腀+5腇腉腍腎腏腒腖腗腘腛+4腡+3腦腨腪
  腫腬腯腲腳腵+3膁膃+4膉膋+3膐膒+5膙膚膞+4膤膥膧膩膫+7膴+5膼+3臄臅臇臈臉臋臍+6摹蘑模膜磨摩魔抹末莫墨默沫漠寞陌谋牟某拇牡亩姆母墓暮幕募慕木目睦牧穆拿哪呐钠那娜纳
  氖乃奶耐奈南男难囊挠脑恼闹淖呢馁内嫩能妮霓倪泥尼拟你匿腻逆溺蔫拈年碾撵捻念娘酿鸟尿捏聂孽啮镊镍涅您柠狞凝宁臔+14臤臥臦臨臩臫臮+4臵+5臽臿舃與+4舎舏舑舓舕+5舝舠舤+3舩
  舮舲舺舼舽舿+4艅艆艈艊艌艍艎艐+7艙艛+3艠+7艩拧泞牛扭钮纽脓浓农弄奴努怒女暖虐疟挪懦糯诺哦欧鸥殴藕呕偶沤啪趴爬帕怕琶拍排牌徘湃派攀潘盘磐盼畔判叛乓庞旁耪胖抛咆刨炮袍跑泡呸
  胚培裴赔陪配佩沛喷盆砰抨烹澎彭蓬棚硼篷膨朋鹏捧碰坯砒霹批披劈琵毗艪+3艱艵+3艻艼芀芁芃芅芆芇芉芌芐芓+3芚芛芞芠芢芣芧芲芵芶芺芻芼芿苀苂苃苅苆苉苐苖苙苚苝苢苧+3苬苭苮苰苲苳
  苵苶苸苺苼+4茊茋茍茐茒茓茖茘茙茝+9茩茪茮茰茲茷茻茽啤脾疲皮匹痞僻屁譬篇偏片骗飘漂瓢票撇瞥拼频贫品聘乒坪苹萍平凭瓶评屏坡泼颇婆破魄迫粕剖扑铺仆莆葡菩蒲埔朴圃普浦谱曝瀑期欺栖戚
  妻七凄漆柒沏其棋奇歧畦崎脐齐旗祈祁骑起岂乞企启契砌器气迄弃汽泣讫掐茾茿荁荂荄荅荈荊+4荓荕+4荝荢荰+6荹荺荾+6莇莈莊+3莏莐莑莔+3莙莚莝莟莡+6莬+3莵莻莾莿菂菃菄菆菈菉
  菋菍菎菐+3菕菗菙菚菛菞菢菣菤菦菧菨菫菬菭恰洽牵扦钎铅千迁签仟谦乾黔钱钳前潜遣浅谴堑嵌欠歉枪呛腔羌墙蔷强抢橇锹敲悄桥瞧乔侨巧鞘撬翘峭俏窍切茄且怯窃钦侵亲秦琴勤芹擒禽寝沁青轻氢倾
  卿清擎晴氰情顷请庆琼穷秋丘邱球求囚酋泅趋区蛆曲躯屈驱渠菮華菳+4菺菻菼菾菿萀萂萅萇+3萐萒+5萙萚萛萞+5萩+7萲+5萹萺萻萾+7葇+9葒+4葘葝+3葢葤+4葪葮葯葰葲葴葷葹葻
  葼取娶龋趣去圈颧权醛泉全痊拳犬券劝缺炔瘸却鹊榷确雀裙群然燃冉染瓤壤攘嚷让饶扰绕惹热壬仁人忍韧任认刃妊纫扔仍日戎茸蓉荣融熔溶容绒冗揉柔肉茹蠕儒孺如辱乳汝入褥软阮蕊瑞锐闰润若弱撒洒
  萨腮鳃塞赛三叁葽+4蒃+3蒊蒍蒏+7蒘蒚蒛蒝+3蒢+12蒰蒱蒳蒵蒶蒷蒻蒼蒾蓀蓂蓃蓅+3蓋蓌蓎蓏蓒蓔蓕蓗+5蓞蓡蓢蓤蓧+4蓭蓮蓯蓱+10蓽蓾蔀蔁蔂伞散桑嗓丧搔骚扫嫂瑟色涩森僧莎砂
  杀刹沙纱傻啥煞筛晒珊苫杉山删煽衫闪陕擅赡膳善汕扇缮墒伤商赏晌上尚裳梢捎稍烧芍勺韶少哨邵绍奢赊蛇舌舍赦摄射慑涉社设砷申呻伸身深娠绅神沈审婶甚肾慎渗声生甥牲升绳蔃+8蔍+3蔒蔔蔕蔖
  蔘蔙蔛+3蔠蔢+8蔭+9蔾+4蕄+3蕋+10蕗蕘蕚+3蕟+4蕥蕦蕧蕩+8蕳蕵+3蕼蕽蕿薀薁省盛剩胜圣师失狮施湿诗尸虱十石拾时什食蚀实识史矢使屎驶始式示士世柿事拭誓逝势是嗜噬适仕
  侍释饰氏市恃室视试收手首守寿授售受瘦兽蔬枢梳殊抒输叔舒淑疏书赎孰熟薯暑曙署蜀黍鼠属术述树束戍竖墅庶数漱薂薃薆薈+6薐+10薝+6薥薦薧薩薫薬薭薱+5薸薺+6藂+6藊+4藑藒藔藖
  +5藝+6藥+3藪+14恕刷耍摔衰甩帅栓拴霜双爽谁水睡税吮瞬顺舜说硕朔烁斯撕嘶思私司丝死肆寺嗣四伺似饲巳松耸怂颂送宋讼诵搜艘擞嗽苏酥俗素速粟僳塑溯宿诉肃酸蒜算虽隋随绥髓碎岁穗遂
  隧祟孙损笋蓑梭唆缩琐索锁所塌他它她塔藹藺藼藽藾蘀+4蘆+10蘒+3蘗+15蘨蘪+13蘹蘺蘻蘽+15虒虓處+4虛虜虝號虠虡虣+7獭挞蹋踏胎苔抬台泰酞太态汰坍摊贪瘫滩坛檀痰潭谭谈坦
  毯袒碳探叹炭汤塘搪堂棠膛唐糖倘躺淌趟烫掏涛滔绦萄桃逃淘陶讨套特藤腾疼誊梯剔踢锑提题蹄啼体替嚏惕涕剃屉天添填田甜恬舔腆挑条迢眺跳贴铁帖厅听烃虭虯虰虲+6蚃+6蚎+4蚔蚖+5蚞+4
  蚥蚦蚫蚭蚮蚲蚳蚷蚸蚹蚻+4蛁蛂蛃蛅蛈蛌蛍蛒蛓蛕蛖蛗蛚蛜蛝蛠+3蛥+3蛪蛫蛬蛯蛵蛶蛷蛺+3蛿蜁蜄蜅蜆蜋蜌蜎+3蜔蜖汀廷停亭庭挺艇通桐酮瞳同铜彤童桶捅筒统痛偷投头透凸秃突图徒途涂屠
  土吐兔湍团推颓腿蜕褪退吞屯臀拖托脱鸵陀驮驼椭妥拓唾挖哇蛙洼娃瓦袜歪外豌弯湾玩顽丸烷完碗挽晚皖惋宛婉万腕汪王亡枉网往旺望忘妄威蜙蜛蜝蜟蜠蜤蜦蜧蜨蜪+3蜯蜰蜲蜳蜵蜶蜸蜹蜺蜼蜽蝀+6
  蝊蝋蝍蝏+3蝔蝕蝖蝘蝚+5蝡蝢蝦+7蝯蝱蝲蝳蝵蝷+3蝿螀螁螄螆螇螉螊螌螎+4螔螕螖螘+6螠+4巍微危韦违桅围唯惟为潍维苇萎委伟伪尾纬未蔚味畏胃喂魏位渭谓尉慰卫瘟温蚊文闻纹吻稳紊
  问嗡翁瓮挝蜗涡窝我斡卧握沃巫呜钨乌污诬屋无芜梧吾吴毋武五捂午舞伍侮坞戊雾晤物勿务悟误昔熙析西硒矽晰嘻吸锡牺螥螦螧螩螪螮螰螱螲螴螶+3螻螼螾螿蟁+4蟇蟈蟉蟌+4蟔+6蟜+3蟡+3
  蟦+3蟫蟬蟭蟯+9蟺+3蟿+3蠄+5蠋+7蠔蠗+3蠜+4蠣稀息希悉膝夕惜熄烯溪汐犀檄袭席习媳喜铣洗系隙戏细瞎虾匣霞辖暇峡侠狭下厦夏吓掀锨先仙鲜纤咸贤衔舷闲涎弦嫌显险现献县腺馅羡
  宪陷限线相厢镶香箱襄湘乡翔祥详想响享项巷橡像向象萧硝霄削哮嚣销消宵淆晓蠤+13蠳+5蠺蠻蠽蠾蠿衁衂衃衆+5衎+5衕衖衘衚+6衦衧衪衭衯衱衳+3衸+4袀袃袆袇袉袊袌袎+3袓袔袕袗
  +4袝+4袣袥+5小孝校肖啸笑效楔些歇蝎鞋协挟携邪斜胁谐写械卸蟹懈泄泻谢屑薪芯锌欣辛新忻心信衅星腥猩惺兴刑型形邢行醒幸杏性姓兄凶胸匈汹雄熊休修羞朽嗅锈秀袖绣墟戌需虚嘘须徐许蓄酗
  叙旭序畜恤絮婿绪续轩喧宣悬旋玄袬袮袯袰袲+4袸+3袽+3裃裄裇裈裊+3裏裐裑裓裖裗裚+4裠裡裦裧裩+6裲裵裶裷裺裻製裿褀褁褃+6褋+4褑褔+4褜+4褢褣褤褦+3褬+3褱褲褳褵褷
  选癣眩绚靴薛学穴雪血勋熏循旬询寻驯巡殉汛训讯逊迅压押鸦鸭呀丫芽牙蚜崖衙涯雅哑亚讶焉咽阉烟淹盐严研蜒岩延言颜阎炎沿奄掩眼衍演艳堰燕厌砚雁唁彦焰宴谚验殃央鸯秧杨扬佯疡羊洋阳氧仰痒养
  样漾邀腰妖瑶褸+8襂襃襅+24襠+5襧+19襼襽襾覀覂覄覅覇+26摇尧遥窑谣姚咬舀药要耀椰噎耶爷野冶也页掖业叶曳腋夜液一壹医揖铱依伊衣颐夷遗移仪胰疑沂宜姨彝椅蚁倚已乙矣以艺抑易
  邑屹亿役臆逸肄疫亦裔意毅忆义益溢诣议谊译异翼翌绎茵荫因殷音阴姻吟银淫寅饮尹引隐覢+30觃觍觓觔觕觗觘觙觛觝觟+3觤觧+3觬觭觮觰觱觲觴+11訁+5計+21印英樱婴鹰应缨莹萤营荧
  蝇迎赢盈影颖硬映哟拥佣臃痈庸雍踊蛹咏泳涌永恿勇用幽优悠忧尤由邮铀犹油游酉有友右佑釉诱又幼迂淤于盂榆虞愚舆余俞逾鱼愉渝渔隅予娱雨与屿禹宇语羽玉域芋郁吁遇喻峪御愈欲狱育誉訞+31訿
  +8詉+47詺+6浴寓裕预豫驭鸳渊冤元垣袁原援辕园员圆猿源缘远苑愿怨院曰约越跃钥岳粤月悦阅耘云郧匀陨允运蕴酝晕韵孕匝砸杂栽哉灾宰载再在咱攒暂赞赃脏葬遭糟凿藻枣早澡蚤躁噪造皂灶燥
  责择则泽贼怎增憎曾赠扎喳渣札轧誁+7誋+7誔+79铡闸眨栅榨咋乍炸诈摘斋宅窄债寨瞻毡詹粘沾盏斩辗崭展蘸栈占战站湛绽樟章彰漳张掌涨杖丈帐账仗胀瘴障招昭找沼赵照罩兆肇召遮折哲蛰辙者
  锗蔗这浙珍斟真甄砧臻贞针侦枕疹诊震振镇阵蒸挣睁征狰争怔整拯正政諤+34謈+29謧+30帧症郑证芝枝支吱蜘知肢脂汁之织职直植殖执值侄址指止趾只旨纸志挚掷至致置帜峙制智秩稚质炙痔滞
  治窒中盅忠钟衷终种肿重仲众舟周州洲诌粥轴肘帚咒皱宙昼骤珠株蛛朱猪诸诛逐竹烛煮拄瞩嘱主著柱助蛀贮铸筑譆+31譧+4譭+50讬讱讻诇诐诪谉谞住注祝驻抓爪拽专砖转撰赚篆桩庄装妆撞壮状
  椎锥追赘坠缀谆准捉拙卓桌琢茁酌啄着灼浊兹咨资姿滋淄孜紫仔籽滓子自渍字鬃棕踪宗综总纵邹走奏揍租足卒族祖诅阻组钻纂嘴醉最罪尊遵昨左佐柞做作坐座\ue810+4谸+8豂+3豈豊豋豍
  +7豖+3豛+5豣+6豬+6豴+3豻+6貃貄貆貇貈貋貍+6貕貖貗貙+20亍丌兀丐廿卅丕亘丞鬲孬噩丨禺丿匕乇夭爻卮氐囟胤馗毓睾鼗丶亟鼐乜乩亓芈孛啬嘏仄厍厝厣厥厮靥赝匚叵匦匮匾赜卦
  卣刂刈刎刭刳刿剀剌剞剡剜蒯剽劂劁劐劓冂罔亻仃仉仂仨仡仫仞伛仳伢佤仵伥伧伉伫佞佧攸佚佝貮+95佟佗伲伽佶佴侑侉侃侏佾佻侪佼侬侔俦俨俪俅俚俣俜俑俟俸倩偌俳倬倏倮倭俾倜倌倥倨偾偃偕偈
  偎偬偻傥傧傩傺僖儆僭僬僦僮儇儋仝氽佘佥俎龠汆籴兮巽黉馘冁夔勹匍訇匐凫夙兕亠兖亳衮袤亵脔裒禀嬴蠃羸冫冱冽冼贎+14贠赑赒赗赟赥赨赩赪赬赮赯赱赲赸+8趂趃趆+3趌+4趒趓趕+9趠趡
  趢趤+12趲趶趷趹趻趽跀跁跂跅跇+3跍跐跒跓跔凇冖冢冥讠讦讧讪讴讵讷诂诃诋诏诎诒诓诔诖诘诙诜诟诠诤诨诩诮诰诳诶诹诼诿谀谂谄谇谌谏谑谒谔谕谖谙谛谘谝谟谠谡谥谧谪谫谮谯谲谳谵谶卩卺
  阝阢阡阱阪阽阼陂陉陔陟陧陬陲陴隈隍隗隰邗邛邝邙邬邡邴邳邶邺跕跘跙跜跠跡跢跥跦跧跩跭跮跰跱跲跴跶跼跾+6踆踇踈踋踍踎踐+3踕+7踠踡踤+4踫踭踰踲踳踴踶踷踸踻踼踾踿蹃蹅蹆蹌+4蹓
  +5蹚+11蹧蹨蹪蹫蹮蹱邸邰郏郅邾郐郄郇郓郦郢郜郗郛郫郯郾鄄鄢鄞鄣鄱鄯鄹酃酆刍奂劢劬劭劾哿勐勖勰叟燮矍廴凵凼鬯厶弁畚巯坌垩垡塾墼壅壑圩圬圪圳圹圮圯坜圻坂坩垅坫垆坼坻坨坭坶坳垭垤
  垌垲埏垧垴垓垠埕埘埚埙埒垸埴埯埸埤埝蹳蹵蹷+4蹽蹾躀躂躃躄躆躈+6躑躒躓躕+6躝躟+11躭躮躰躱躳+6躻+18軏+21堋堍埽埭堀堞堙塄堠塥塬墁墉墚墀馨鼙懿艹艽艿芏芊芨芄芎芑芗芙
  芫芸芾芰苈苊苣芘芷芮苋苌苁芩芴芡芪芟苄苎芤苡茉苷苤茏茇苜苴苒苘茌苻苓茑茚茆茔茕苠苕茜荑荛荜茈莒茼茴茱莛荞茯荏荇荃荟荀茗荠茭茺茳荦荥軥+95荨茛荩荬荪荭荮莰荸莳莴莠莪莓莜莅荼莶莩
  荽莸荻莘莞莨莺莼菁萁菥菘堇萘萋菝菽菖萜萸萑萆菔菟萏萃菸菹菪菅菀萦菰菡葜葑葚葙葳蒇蒈葺蒉葸萼葆葩葶蒌蒎萱葭蓁蓍蓐蓦蒽蓓蓊蒿蒺蓠蒡蒹蒴蒗蓥蓣蔌甍蔸蓰蔹蔟蔺轅+32轪辀辌辒辝辠辡辢辤
  +3辪辬+3農+3辷辸辺辻込辿迀迃迆迉+4迏迒迖迗迚迠迡迣迧迬迯迱迲迴迵迶迺迻迼迾迿逇逈逌逎逓逕逘蕖蔻蓿蓼蕙蕈蕨蕤蕞蕺瞢蕃蕲蕻薤薨薇薏蕹薮薜薅薹薷薰藓藁藜藿蘧蘅蘩蘖蘼廾弈夼奁耷
  奕奚奘匏尢尥尬尴扌扪抟抻拊拚拗拮挢拶挹捋捃掭揶捱捺掎掴捭掬掊捩掮掼揲揸揠揿揄揞揎摒揆掾摅摁搋搛搠搌搦搡摞撄摭撖這逜連逤逥逧+5逰+4逷逹逺逽逿遀遃遅遆遈+4過達違遖遙遚遜+5遤
  遦遧適+3遯+4遶+6遾邁還+3邉邊邌+4邒邔邖邘邚邜邞邟邠邤邥邧邨邩邫邭邲邷邼邽邿郀摺撷撸撙撺擀擐擗擤擢攉攥攮弋忒甙弑卟叱叽叩叨叻吒吖吆呋呒呓呔呖呃吡呗呙吣吲咂咔呷呱呤咚咛咄
  呶呦咝哐咭哂咴哒咧咦哓哔呲咣哕咻咿哌哙哚哜咩咪咤哝哏哞唛哧唠哽唔哳唢唣唏唑唧唪啧喏喵啉啭啁啕唿啐唼郂郃郆郈郉郋郌郍郒郔郕郖郘郙郚郞郟郠郣郤郥郩郪郬郮郰+3郵郶郷郹+3郿鄀鄁鄃鄅
  +19鄚+3鄟鄠鄡鄤+10鄰鄲+6鄺+8酄唷啖啵啶啷唳唰啜喋嗒喃喱喹喈喁喟啾嗖喑啻嗟喽喾喔喙嗪嗷嗉嘟嗑嗫嗬嗔嗦嗝嗄嗯嗥嗲嗳嗌嗍嗨嗵嗤辔嘞嘈嘌嘁嘤嘣嗾嘀嘧嘭噘嘹噗嘬噍噢噙噜噌噔嚆
  噤噱噫噻噼嚅嚓嚯囔囗囝囡囵囫囹囿圄圊圉圜帏帙帔帑帱帻帼酅酇酈酑酓+3酘酙酛酜酟酠酦酧酨酫酭酳酺酻酼醀+4醆醈醊醎醏醓+6醜+5醤+5醫醬醰+3醶+3醻+11釈釋釐釒+9針+8帷
  幄幔幛幞幡岌屺岍岐岖岈岘岙岑岚岜岵岢岽岬岫岱岣峁岷峄峒峤峋峥崂崃崧崦崮崤崞崆崛嵘崾崴崽嵬嵛嵯嵝嵫嵋嵊嵩嵴嶂嶙嶝豳嶷巅彳彷徂徇徉後徕徙徜徨徭徵徼衢彡犭犰犴犷犸狃狁狎狍狒狨狯狩狲狴
  狷猁狳猃狺釦+95狻猗猓猡猊猞猝猕猢猹猥猬猸猱獐獍獗獠獬獯獾舛夥飧夤夂饣饧+5饴饷饽馀馄馇馊馍馐馑馓馔馕庀庑庋庖庥庠庹庵庾庳赓廒廑廛廨廪膺忄忉忖忏怃忮怄忡忤忾怅怆忪忭忸怙怵怦怛
  怏怍怩怫怊怿怡恸恹恻恺恂鉆+45鉵+24銏+24恪恽悖悚悭悝悃悒悌悛惬悻悱惝惘惆惚悴愠愦愕愣惴愀愎愫慊慵憬憔憧憷懔懵忝隳闩闫闱闳闵闶闼闾阃阄阆阈阊+3阏阒阕阖阗阙阚丬爿戕氵汔汜
  汊沣沅沐沔沌汨汩汴汶沆沩泐泔沭泷泸泱泗沲泠泖泺泫泮沱泓泯泾銨+5銯+24鋉+64洹洧洌浃浈洇洄洙洎洫浍洮洵洚浏浒浔洳涑浯涞涠浞涓涔浜浠浼浣渚淇淅淞渎涿淠渑淦淝淙渖涫渌涮渫湮湎湫
  溲湟溆湓湔渲渥湄滟溱溘滠漭滢溥溧溽溻溷滗溴滏溏滂溟潢潆潇漤漕滹漯漶潋潴漪漉漩澉澍澌潸潲潼潺濑錊+51錿+42鍫濉澧澹澶濂濡濮濞濠濯瀚瀣瀛瀹瀵灏灞宀宄宕宓宥宸甯骞搴寤寮褰寰蹇謇辶
  迓迕迥迮迤迩迦迳迨逅逄逋逦逑逍逖逡逵逶逭逯遄遑遒遐遨遘遢遛暹遴遽邂邈邃邋彐彗彖彘尻咫屐屙孱屣屦羼弪弩弭艴弼鬻屮妁妃妍妩妪妣鍬+34鎐+57鏋鏌鏍妗姊妫妞妤姒妲妯姗妾娅娆姝娈姣姘
  姹娌娉娲娴娑娣娓婀婧婊婕娼婢婵胬媪媛婷婺媾嫫媲嫒嫔媸嫠嫣嫱嫖嫦嫘嫜嬉嬗嬖嬲嬷孀尕尜孚孥孳孑孓孢驵驷驸驺驿驽骀骁骅骈骊骐骒骓骖骘骛骜骝骟骠骢骣骥骧纟纡纣纥纨纩鏎+7鏗+87纭纰纾
  绀绁绂绉绋绌绐绔绗绛绠绡绨绫绮绯绱绲缍绶绺绻绾缁缂缃缇缈缋缌缏缑缒缗缙缜缛缟缡+6缪+3缯+4缵幺畿巛甾邕玎玑玮玢玟珏珂珑玷玳珀珉珈珥珙顼琊珩珧珞玺珲琏琪瑛琦琥琨琰琮琬鐯+14
  鐿+43鑬+24钑钖钘铇铏铓铔铚铦铻锜锠琛琚瑁瑜瑗瑕瑙瑷瑭瑾璜璎璀璁璇璋璞璨璩璐璧瓒璺韪韫韬杌杓杞杈杩枥枇杪杳枘枧杵枨枞枭枋杷杼柰栉柘栊柩枰栌柙枵柚枳柝栀柃枸柢栎柁柽栲栳桠桡桎
  桢桄桤梃栝桕桦桁桧桀栾桊桉栩梵梏桴桷梓桫棂楮棼椟椠棹锧锳锽镃镈镋镕镚镠镮镴镵長+7門+75椤棰椋椁楗棣椐楱椹楠楂楝榄楫榀榘楸椴槌榇榈槎榉楦楣楹榛榧榻榫榭槔榱槁槊槟榕槠榍槿樯槭樗
  樘橥槲橄樾檠橐橛樵檎橹樽樨橘橼檑檐檩檗檫猷獒殁殂殇殄殒殓殍殚殛殡殪轫轭轱轲轳轵轶轸轷轹轺轼轾辁辂辄辇辋闌+27闬闿阇阓阘阛阞阠阣+6阫阬阭阯阰阷+3阾陁陃陊陎陏陑陒陓陖+4陜陝
  陞陠陣陥陦陫陭+4陳陸+12隇隉隊辍辎辏辘辚軎戋戗戛戟戢戡戥戤戬臧瓯瓴瓿甏甑甓攴旮旯旰昊昙杲昃昕昀炅曷昝昴昱昶昵耆晟晔晁晏晖晡晗晷暄暌暧暝暾曛曜曦曩贲贳贶贻贽赀赅赆赈赉赇赍赕赙
  觇觊觋觌觎+3牮犟牝牦牯牾牿犄犋犍犏犒挈挲掰隌階隑隒隓隕隖隚際隝+9隨+7隱隲隴隵隷隸隺隻隿雂雃雈雊雋雐雑雓雔雖+9雡+6雫+3雰雱雲雴雵雸雺+3雿霂霃霅霊霋霌霐霑霒霔霕霗+4
  霝霟霠搿擘耄毪毳毽毵毹氅氇氆氍氕氘氙氚氡氩氤氪氲攵敕敫牍牒牖爰虢刖肟肜肓肼朊肽肱肫肭肴肷胧+3胛胂胄胙胍胗朐胝胫胱胴胭脍脎胲胼朕脒豚脶脞脬脘脲腈腌腓腴腙腚腱腠腩腼腽腭腧塍媵膈膂
  膑滕膣膪臌朦臊膻霡+8霫霬霮霯霱霳+4霺+3霿+18靔靕靗靘靚靜靝靟靣靤靦靧靨靪+8靵靷+4靽+7鞆+4鞌鞎鞏鞐鞓鞕鞖鞗鞙+4臁膦欤欷欹歃歆歙飑飒飓飕飙飚殳彀毂觳斐齑斓於旆旄旃
  旌旎旒旖炀炜炖炝炻烀炷炫炱烨烊焐焓焖焯焱煳煜煨煅煲煊煸煺熘熳熵熨熠燠燔燧燹爝爨灬焘煦熹戾戽扃扈扉礻祀祆祉祛祜祓祚祢祗祠祯祧祺禅禊禚禧禳忑忐鞞鞟鞡鞢鞤+6鞬鞮鞰鞱鞳鞵+48韨韮
  +4韴韷+23怼恝恚恧恁恙恣悫愆愍慝憩憝懋懑戆肀聿沓泶淼矶矸砀砉砗砘砑斫砭砜砝砹砺砻砟砼砥砬砣砩硎硭硖硗砦硐硇硌硪碛碓碚碇碜碡碣碲碹碥磔磙磉磬磲礅磴礓礤礞礴龛黹黻黼盱眄眍盹眇眈
  眚眢眙眭眦眵眸睐睑睇睃睚睨頏+95睢睥睿瞍睽瞀瞌瞑瞟瞠瞰瞵瞽町畀畎畋畈畛畲畹疃罘罡罟詈罨罴罱罹羁罾盍盥蠲钅钆钇钋钊钌钍钏钐钔钗钕钚钛钜钣钤钫钪钭钬钯钰钲钴钶+4钼钽钿铄铈+6铐
  铑铒铕铖铗铙铘铛铞铟铠铢铤铥铧铨铪顯+5颋颎颒颕颙颣風+37飏飐飔飖飗飛飜飝飠+6飩+30铩铫铮铯铳铴铵铷铹铼铽铿锃锂锆锇锉锊锍锎锏锒+4锘锛锝锞锟锢锪锫锩锬锱锲锴锶锷锸锼锾锿
  镂锵镄镅镆镉镌镎镏镒镓镔镖+3镛镞镟镝镡镢镤+8镯镱镲镳锺矧矬雉秕秭秣秫稆嵇稃稂稞稔餈+4餎餏餑+28餯+36饖+12饤饦饳饸饹饻饾馂馃馉稹稷穑黏馥穰皈皎皓皙皤瓞瓠甬鸠鸢鸨+4
  鸲鸱鸶鸸鸷鸹鸺鸾鹁鹂鹄鹆+3鹋鹌鹎鹑鹕鹗鹚鹛鹜鹞鹣鹦+6鹱鹭鹳疒疔疖疠疝疬疣疳疴疸痄疱疰痃痂痖痍痣痨痦痤痫痧瘃痱痼痿瘐瘀瘅瘌瘗瘊瘥瘘瘕瘙馌馎馚+10馦馧馩+80瘛瘼瘢瘠癀瘭瘰瘿
  瘵癃瘾瘳癍癞癔癜癖癫癯翊竦穸穹窀窆窈窕窦窠窬窨窭窳衤衩衲衽衿袂袢裆袷袼裉裢裎裣裥裱褚裼裨裾裰褡褙褓褛褊褴褫褶襁襦襻疋胥皲皴矜耒耔耖耜耠耢耥耦耧耩耨耱耋耵聃聆聍聒聩聱覃顸颀颃駺
  +95颉颌颍颏颔颚颛颞颟颡颢颥颦虍虔虬虮虿虺虼虻蚨蚍蚋蚬蚝蚧蚣蚪蚓蚩蚶蛄蚵蛎蚰蚺蚱蚯蛉蛏蚴蛩蛱蛲蛭蛳蛐蜓蛞蛴蛟蛘蛑蜃蜇蛸蜈蜊蜍蜉蜣蜻蜞蜥蜮蜚蜾蝈蜴蜱蜩蜷蜿螂蜢蝽蝾蝻蝠蝰蝌蝮螋蝓
  蝣蝼蝤蝙蝥螓螯螨蟒驚+17驲骃骉骍骎骔骕骙骦骩+6骲+3骹骻骽骾骿髃髄髆+4髍+3髒體+3髙+5髠髢+3髧+3髬髮髰+8髺髼+6鬄鬅鬆蟆螈螅螭螗螃螫蟥螬螵螳蟋蟓螽蟑蟀蟊蟛蟪蟠蟮
  蠖蠓蟾蠊蠛蠡蠹蠼缶罂罄罅舐竺竽笈笃笄笕笊笫笏筇笸笪笙笮笱笠笥笤笳笾笞筘筚筅筵筌筝筠筮筻筢筲筱箐箦箧箸箬箝箨箅箪箜箢箫箴篑篁篌篝篚篥篦篪簌篾篼簏簖簋鬇鬉+5鬐鬑鬒鬔+10鬠鬡鬢鬤
  +10鬰鬱鬳+7鬽+3魆魊魋魌魎魐魒魓魕+38簟簪簦簸籁籀臾舁舂舄臬衄舡舢舣舭舯舨舫舸舻舳舴舾艄艉艋艏艚艟艨衾袅袈裘裟襞羝羟羧羯羰羲籼敉粑粝粜粞粢粲粼粽糁糇糌糍糈糅糗糨艮暨羿翎
  翕翥翡翦翩翮翳糸絷綦綮繇纛麸麴赳趄趔趑趱赧赭豇豉酊酐酎酏酤魼+95酢酡酰酩酯酽酾酲酴酹醌醅醐醍醑醢醣醪醭醮醯醵醴醺豕鹾趸跫踅蹙蹩趵趿趼趺跄跖跗跚跞跎跏跛跆跬跷跸跣跹跻跤踉跽踔踝
  踟踬踮踣踯踺蹀踹踵踽踱蹉蹁蹂蹑蹒蹊蹰蹶蹼蹯蹴躅躏躔躐躜躞豸貂貊貅貘貔斛觖觞觚觜鯜+95觥觫觯訾謦靓雩雳雯霆霁霈霏霎霪霭霰霾龀龃龅+5龌黾鼋鼍隹隼隽雎雒瞿雠銎銮鋈錾鍪鏊鎏鐾鑫鱿鲂
  鲅+3稣鲋鲎鲐鲑鲒鲔鲕鲚鲛鲞+5鲥+4鲫鲭鲮鲰+7鲺+3鳄+3鳊鳋鰼+63鱽鱾鲀鲃鲄鲉鲊鲌鲏鲓鲖+3鲝鲪鲬鲯鲹鲾+4鳈鳉鳑鳒鳚鳛鳠鳡鳌+4鳓鳔鳕鳗鳘鳙鳜鳝鳟鳢靼鞅鞑鞒鞔鞯鞫鞣鞲
  鞴骱骰骷鹘骶骺骼髁髀髅髂髋髌髑魅魃魇魉魈魍魑飨餍餮饕饔髟髡髦髯髫髻髭髹鬈鬏鬓鬟鬣麽麾縻麂麇麈麋麒鏖麝麟黛黜黝黠黟黢黩黧黥黪黯鼢鼬鼯鼹鼷鼽鼾齄鳣+95\ue234+93鵃+95
  \ue292+93鶣+95\ue2f0+93鸃+27鸤鸧鸮鸰鸴鸻鸼鹀鹍鹐鹒鹓鹔鹖鹙鹝鹟+3鹥鹮鹯鹲鹴+9麀麁麃+3麉麊麌+5麔+8麞麠+5麧+3\ue34e+93麫+8麵麶麷麹
  麺麼麿+4黅+3黊黋黌黐黒黓黕黖黗黙黚點黡黣黤黦黨黫+3黰+8黺黽黿+11鼌鼏鼑鼒鼔鼕鼖鼘鼚+5鼡鼣+8鼭鼮鼰鼱\ue3ac+93鼲+4鼸鼺鼼鼿+4齅+10齒+44龁龂龍+11
  龜龝龞龡+4郎凉秊裏隣\ue40a+93兀+3﨑﨓﨔礼﨟蘒﨡﨣﨤﨧﨨﨩⺁\ue816\ue817\ue818⺄㑳㑇⺈⺋龴㖞㘚㘎⺌⺗㥮㤘龵㧏㧟㩳㧐龶龷㭎㱮㳠⺧\ue831龸⺪䁖䅟
  ⺮䌷⺳⺶⺷\ue83b䎱䎬⺻䏝䓖䙡䙌龹䜣䜩䝼䞍⻊䥇䥺䥽䦂䦃䦅䦆䦟䦛䦷䦶龺\ue855䲣䲟䲠䲡䱷䲢䴓+6䶮龻\ue468+93"

def fourByteTable : CodeTable := .ofText
  "0-23=80 24-25=A5 26-2C=A9 2D-31=B2 32-50=B8 51-58=D8 59-5E=E2 5F=EB 60-63=EE 64-66=F4 67=F8
  68=FB 69-6C=FD 6D-7D=102 7E-84=114 85-93=11C 94-AB=12C AC-AE=145 AF-B2=149 B3-CF=14E
  D0-131=16C 132=1CF 133=1D1 134=1D3 135=1D5 136=1D7 137=1D9 138=1DB 139-154=1DD 155-1AB=1FA
  1AC-1BA=252 1BB-21F=262 220=2C8 221-22D=2CC 22E-2E4=2DA 2E5=3A2 2E6-2EC=3AA 2ED=3C2
  2EE-324=3CA 325-332=402 333=450 334-1D20=452 1D21=E7C7 1D22-1EF1=1E40 1EF2-1EF3=2011 1EF4=2017
  1EF5-1EF6=201A 1EF7-1EFD=201E 1EFE-1F06=2027 1F07=2031 1F08=2034 1F09-1F0D=2036 1F0E-1F7D=203C
  1F7E-1FD3=20AD 1FD4=2104 1FD5-1FD7=2106 1FD8-1FE3=210A 1FE4-1FED=2117 1FEE-202B=2122
  202C-202F=216C 2030-2045=217A 2046-2047=2194 2048-20B5=219A 20B6-20BB=2209 20BC=2210
  20BD-20BF=2212 20C0-20C3=2216 20C4-20C5=221B 20C6-20C7=2221 20C8=2224 20C9=2226 20CA-20CB=222C
  20CC-20D0=222F 20D1-20D5=2238 20D6-20DF=223E 20E0-20E2=2249 20E3-20E7=224D 20E8-20F4=2253
  20F5-20F6=2262 20F7-20FC=2268 20FD-2121=2270 2122-2124=2296 2125-212F=229A 2130-2148=22A6
  2149-219A=22C0 219B-22E7=2313 22E8-22F1=246A 22F2-2355=249C 2356-2359=254C 235A-2366=2574
  2367-2369=2590 236A-2373=2596 2374-2383=25A2 2384-238B=25B4 238C-2393=25BE 2394-2396=25C8
  2397-2398=25CC 2399-23AA=25D0 23AB-23C9=25E6 23CA-23CB=2607 23CC-2401=260A 2402=2641
  2403-2C40=2643 2C41-2C42=2E82 2C43-2C45=2E85 2C46-2C47=2E89 2C48-2C51=2E8D 2C52-2C60=2E98
  2C61-2C62=2EA8 2C63-2C65=2EAB 2C66-2C69=2EAF 2C6A-2C6B=2EB4 2C6C-2C6E=2EB8 2C6F-2C7C=2EBC
  2C7D-2DA1=2ECB 2DA2-2DA5=2FFC 2DA6=3004 2DA7-2DAB=3018 2DAC-2DAD=301F 2DAE-2DC1=302A
  2DC2-2DC3=303F 2DC4-2DCA=3094 2DCB-2DCC=309F 2DCD-2DD1=30F7 2DD2-2DD7=30FF 2DD8-2ECD=312A
  2ECE-2ED4=322A 2ED5-2F45=3232 2F46-302F=32A4 3030-303B=3390 303C-303D=339F 303E-305F=33A2
  3060-3068=33C5 3069-306A=33CF 306B-306C=33D3 306D-30DD=33D6 30DE-3108=3448 3109-3232=3474
  3233-32A1=359F 32A2-32AC=360F 32AD-35A9=361B 35AA-35FE=3919 35FF-365E=396F 365F-366C=39D1
  366D-36FF=39E0 3700-37D9=3A74 37DA-38F8=3B4F 38F9-3969=3C6F 396A-3CDE=3CE1 3CDF-3DE6=4057
  3DE7-3FBD=4160 3FBE-4031=4338 4032-4035=43AD 4036-4060=43B2 4061-4158=43DE 4159-42CD=44D7
  42CE-42E1=464D 42E2-43A2=4662 43A3-43A7=4724 43A8-43F9=472A 43FA-4409=477D 440A-45C2=478E
  45C3-45F4=4948 45F5-45F6=497B 45F7-45FA=497E 45FB=4984 45FC-460F=4987 4610-4612=499C
  4613-4628=49A0 4629-48E7=49B8 48E8-490E=4C78 490F-497D=4CA4 497E-4A11=4D1A 4A12-4A62=4DAF
  4A63-82BC=9FA6 82BD=E76C 82BE=E7C8 82BF-82CB=E7E7 82CC=E815 82CD-82D1=E819 82D2-82D8=E81F
  82D9-82DC=E827 82DD-82E0=E82D 82E1-82E8=E833 82E9-82EF=E83C 82F0-82FF=E844 8300-830D=E856
  830E-93D4=E865 93D5-9420=F92D 9421-943B=F97A 943C-948C=F996 948D-9495=F9E8 9496-94AF=F9F2
  94B0=FA10 94B1=FA12 94B2-94B4=FA15 94B5-94BA=FA19 94BB=FA22 94BC-94BD=FA25 94BE-98C3=FA2A
  98C4=FE32 98C5-98C8=FE45 98C9=FE53 98CA=FE58 98CB=FE67 98CC-9960=FE6C 9961-99E1=FF5F
  99E2-99FB=FFE6 2E248-12E247=10000"

end HopProbe.Text.Charset
