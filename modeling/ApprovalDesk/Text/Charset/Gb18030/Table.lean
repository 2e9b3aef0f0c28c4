import ApprovalDesk.Text.Charset.Index

/-!
# The Chinese characters of two bytes

The characters of GB 18030 that take two bytes in rows of 190, as the Encoding Standard numbers them.
-/

namespace ApprovalDesk.Text.Charset

set_option autoImplicit false

/-- The Chinese characters of two bytes. -/
def gbPairs : Index := Index.read
    "0:丂丄丅丆丏丒丗丟丠両丣並丩丮丯丱丳丵丷丼乀乁乂乄乆乊乑乕乗乚乛乢-乥乧乨乪-乯乲乴-乽乿-亅亇亊亐亖亗亙亜亝亞亣亪亯亰亱亴亶-亹亼亽亾仈仌仏仐仒仚仛仜仠仢仦仧仩仭仮仯仱仴仸
    102:仹仺仼仾伀伂-伈伋伌伒-伖伜伝伡伣伨伩伬伭伮伱伳伵伷伹伻伾-佂佄佅佇-佌佒佔佖佡佢佦佨佪佫佭佮佱佲併佷-佺佽侀侁侂侅來侇侊侌侎侐侒侓侕侖侘侙侚侜侞侟価侢侤侫侭侰-侴
    198:侶-侾俀俁係俆-俉俋俌俍俒-俖俙俛俠俢俤俥俧俫俬俰俲俴-俷俹俻俼俽俿-個倎倐們倓倕倖倗倛倝倞倠倢倣値倧倫倯-倹倻倽倿-偂偄偅偆偉偊偋偍偐-偔偖-偙偛偝-偤偦-偫偭-偵偸
    328:偹偺偼偽傁-傄傆傇傉-傌傎-傢傤傦傪傫傭-傱傳-傹傼-僎僐-僕僗僘僙僛-僥僨-僫僯-僲僴僶-僺僼-儅儈儉儊儌-儑儓-儠儢-儾兂兇兊兌兎兏児兒兓兗兘兙兛兝-兡兣兤兦內兩兪
    518:兯兲兺兾兿冃冄円冇冊冋冎-冑冓冔冘冚冝冞冟冡冣冦-冪冭冮冴冸冹冺冾冿凁凂凃凅凈凊凍凎凐凒-凚凜凞凟凢凣凥-凪凬凮凱凲凴凷凾刄刅刉刋刌刏刐刓刔刕刜刞刟刡刢刣別刦刧刪刬刯刱
    614:刲刴刵刼刾剄-剉剋剎剏剒剓剕剗-剛剝剟剠剢剣剤剦剨剫-剮剰剱剳-剼剾劀劃-劇劉-劏劑劒劔-劚劜劤-劧劮劯劰労-劽勀勁勂勄勅勆勈勊勌-勏勑勓勔動勗務-勞勠-勣勥-勯勱-勸
    747:勻勼勽匁-匄匇匉-匌匎匑-匔匘匛匜匞匟匢匤匥匧匨匩匫匬匭匯-匸匼匽區卂卄卆卋卌卍卐協単卙卛卝卥卨卪卬卭卲卶卹卻-卾厀厁厃厇厈厊厎-厔厖厗厙厛厜厞厠厡厤厧厪-厭厯-厵
    849:厷-厺厼厽厾叀參-叇収叏叐叒叓叕叚叜叝叞叡叢叧叴叺叾叿吀吂吅吇吋吔吘吙吚吜吢吤吥吪吰吳吶吷吺吽吿呁呂呄呅呇呉呌-呏呑呚呝-呡呣呥呧呩-呰呴呹呺呾呿咁咃咅咇-咊咍咑咓咗咘
    945:咜咞-咢咥咮咰咲咵咶咷咹咺咼咾哃哅哊哋哖哘哛哠-哤哫哬哯哰哱哴-哹哻哾唀唂-唅唈唊-唎唒唓唕-唚唜-唟唡唥唦唨唩唫唭唲唴唵唶唸-唻唽啀啂啅啇啈啋-問啑-啔啗-啛啝-啠啢
    1050:啣啨啩啫啯-啴啹啺啽啿喅喆喌喍喎喐喒喓喕喖喗喚喛喞喠-喦喨-喰喲喴営喸喺喼喿-嗃嗆嗇嗈嗊嗋嗎嗏嗐嗕嗗-嗛嗞嗠嗢嗧嗩嗭嗮嗰嗱嗴嗶嗸-嗼嗿嘂-嘇嘊嘋嘍嘐-嘗嘙嘚嘜嘝嘠嘡嘢
    1160:嘥嘦嘨-嘫嘮嘯嘰嘳嘵嘷嘸嘺嘼嘽嘾噀-噋噏-噓噕噖噚噛噝-噡噣噥噦噧噭-噰噲-噵噷-噺噽-嚄嚇-嚍嚐嚑嚒嚔-嚢嚤-嚮嚰-嚶嚸-嚻嚽-囉囋-囓囕囖囘囙囜団囥-囪囬囮囯囲図
    1313:囶囷囸囻囼圀圁圂圅圇國-圛圝圞圠圡圢圤-圧圫圱圲圴-圸圼圽圿坁坃-坆坈坉坋坒-坖坘坙坢坣坥坧坬坮坰坱坲坴坵坸坹坺坽-垁垇-垊垍-垑垔-垚垜-垟垥垨垪垬垯垰垱垳垵垶垷
    1425:垹-埁埄-埊埌埍埐埑埓埖埗埛埜埞埡埢埣埥-埬埮埰-埳埵埶執埻埼埾埿堁堃堄堅堈堉堊堌堎堏堐堒堓堔堖堗堘堚-堝堟堢堣堥-堩堫-堯報-場堶-塃塅-塋塎塏塐塒塓塕塖塗塙-塝
    1546:塟-塤塦-塪塭-塽塿墂墄墆墇墈墊-墑墔-墘墛墜墝墠-墧墪-墻墽-壀壂壃壄壆-壐壒壓壔壖-壣壥-壪壭壯壱売壴壵壷壸壺-夁夃夅夆夈-夌夎夐-夓夗夘夛夝夞夠-夣夦夨夬夰夲夳
    1707:夵夶夻夽-奀奃奅奆奊奌奍奐奒奓奙奛-奟奡奣奤奦-奲奵奷奺奻奼奾奿妀妅妉妋妌妎-妑妔妕妘妚-妝妟-妢妦妧妬妭妰妱妳-妸妺妼妽妿-姅姇姈姉姌-姏姕姖姙姛姞-姢姤姦姧姩姪姫
    1816:姭-姸姺姼姽姾娀娂娊娋娍-娐娒娔-娗娙娚娛娝娞娡娢娤娦娧娨娪-娰娳娵娷-娻娽娾娿婁-婅婇婈婋-婔婖-婙婛-婡婣-婦婨婩婫-婳婸婹婻-婾媀-媑媓-媙媜-媩媫-媱媴媶媷
    1971:媹-媽媿嫀嫃-嫈嫊嫋嫍-嫑嫓嫕嫗嫙嫚嫛嫝嫞嫟嫢嫤嫥嫧嫨嫪嫬-嫰嫲-嬈嬊-嬕嬘-嬱嬳嬵嬶嬸-嬿孁-孏孒孖孞孠孡孧孨孫孭孮孯孲孴孶-孹孻孼孾孿宂宆宊宍宎宐宑宒宔宖実宧宨宩
    2133:宬-宯宱宲宷宺宻宼寀寁寃寈-寋寍寎寏寑寔-寜寠寢寣實寧審-寭寯寱-寷寽対尀専尃尅將專尋-導尐尒尓尗尙尛尞-尡尣尦尨-尫尭-尰尲尳尵尶尷屃屄屆屇屌屍屒屓屔屖屗屘屚-屝屟
    2235:屢層屧-屭屰屲-屸屻-屾岀岃-岇岉岊岋岎岏岒岓岕岝-岡岤-岨岪岮岯岰岲岴岶岹-岼岾峀峂峃峅-峊峌-峑峓-峘峚-峠峢峣峧峩峫峬峮峯峱-峺峼-崁崄崅崈-崍崏-崓崕崗-崚崜
    2363:崝崟-崣崥崨崪崫崬崯-崳崵-崼崿-嵆嵈嵉嵍-嵗嵙嵚嵜嵞-嵨嵪嵭嵮嵰-嵳嵵-嶁嶃-嶘嶚嶛嶜嶞-嶶嶸-巄巆-巌巎-巚巜巟巠巣巤巪巬巭巰巵巶巸-巼巿帀帄帇帉帊帋帍帎帒帓帗
    2553:帞-帥帨-帬帯帰帲-帶帹帺帾-幁幃幆-幋幍-幓幖-幚幜幝幟幠幣-幱幵幷幹幾庁庂広庅庈庉庌庍庎庒庘庛庝庡-庤庨-庬庮-庲庴庺-庽庿-廈廋-廐廔廕廗-廚廜-廧廩廫-廳廵廸
    2699:廹廻廼廽弅弆弇弉弌弍弎弐弒弔弖弙弚弜弝弞弡-弤弨弫弬弮弰弲-弸弻弽弾弿彁-彏彑彔彙-彜彞彟彠彣彥彧彨彫彮彯彲彴彵彶彸彺彽彾彿徃徆徍徎徏徑従徔徖徚徛徝-徠徢-徧復徫徬
    2803:徯-徴徶徸-徻徾-忂忇忈忊忋忎忓忔忕忚忛応忞忟忢忣忥忦忨忩忬忯忰忲忳忴忶忷忹忺忼怇怈怉怋怌怐怑怓怗怘怚怞怟怢怣怤怬怭怮怰-怴怶-怺怽怾恀恄-恊恌恎恏恑恓恔恖恗恘恛恜
    2899:恞-恡恥恦恮恱恲恴恵恷恾悀悁悂悅-悈悊悋悎-悑悓悕悗悘悙悜悞悡悢悤悥悧悩悪悮悰悳悵悶悷悹悺悽-惄惇惈惉惌-惐惒惓惔惖惗惙惛惞惡-惥惪惱惲惵惷惸惻-惿愂-愅愇愊愋愌
    2995:愐-愔愖-愙愛-愞愡愢愥愨愩愪愬-愾慀-慇慉態慍慏慐慒慓慔慖-慜慞-慡慣-慦慩-慯慱-慴慶慸-憊憌憍憏-憓憕-憜憞-憦憪憫憭-憶憸-憽憿懀懁懃-懇應懌-懐懓懕-懥
    3169:懧-懴懶-懾戀-戅戇戉戓戔戙戜戝戞戠戣戦-戩戫戭戯-戲戵戶戸-戼扂扄扅扆扊扏扐払扖扗扙扚扜-扢扤扥扨扱扲扴扵扷扸扺扻扽抁抂抃抅-抈抋-抐抔抙抜抝択抣抦抧抩抪抭-抰抲抳
    3285:抴抶抷抸抺抾拀拁拃拋拏拑拕拝拞拠拡拤拪拫拰拲拵拸-拻挀挃-挆挊-挍挏挐挒-挕挗挘挙挜挦挧挩挬挭挮挰挱挳-挸挻挼挾-捁捄捇捈捊捑-捔捖-捝捠捤捥捦捨捪捫捬捯捰捲-捵捸捹
    3383:捼-捿掁掃-掆掋掍掑掓掔掕掗掙-掟採掤掦掫掯掱掲掵掶掹掻掽掿-揃揅揇揈揊揋揌揑揓揔揕揗-揝揟揢揤-揨揫揬揮-揱揳揵揷揹-揼揾搃搄搆-搊損搎搑搒搕-搚搝搟搢-搥搧搨搩搫
    3488:搮-搳搵-搹搻搼搾摀摂摃摉摋-摑摓摕摖摗摙-摝摟-摦摨摪摫摬摮-摷摻-撁撃撆撈-撐撓撔撗撘撚-撝撟-撣撥-撨撪撫撯撱-撴撶撹撻撽撾撿擁擃擄擆-擌擏擑擓-擖擙-擝擟擠擡
    3616:擣擥擧-擿攁-攈攊-攑攓-攗攙-攤攦-攪攬攭攰-攳攷攺攼攽敀-敄敆敇敊敋敍敎敐敒敓敔敗敘敚敜敟敠敡敤敥敧-敪敭敮敯敱敳敵敶數-斆斈斉斊斍斎斏斒斔斕斖斘斚斝斞斠斢斣斦斨
    3760:斪斬斮斱-斸斺斻斾斿旀旂旇-旊旍旐旑旓旔旕旘-旟旡旣旤旪旫旲-旵旸旹旻-旿昁昄昅昇昈昉昋昍昐昑昒昖昗昘昚昛昜昞昡-昤昦昩-昬昮昰昲昳昷-昻昽昿晀時晄-晊晍晎晐晑晘晙
    3864:晛-晞晠晢晣晥晧晩-晭晱晲晳晵晸晹晻晼晽晿暀暁暃暅暆暈-暋暍-暐暒-暕暘-暜暞-暦暩-暭暯-暳暵-暸暺-暽暿-曘曚曞-曥曧曨曪-曯曱曵曶書曺曻曽朁-朇朌朎朏朑朒朓朖朘
    4002:朙朚朜朞朠-朥朧朩朮朰朲朳朶-朹朻朼朾朿杁杄杅杇杊杋杍杒杔杕杗-杛杝杢杣杤杦杧杫杬杮東杴杶杸-杻杽枀枂枃枅枆枈枊枌-枏枑-枔枖枙枛枟枠枡枤枦枩枬枮枱枲枴枹-柀柂柅-柎
    4106:柕柖柗柛柟柡柣柤柦柧柨柪柫柭柮柲柵-柼柾栁-栄栆栍栐栒栔栕栘-栜栞栟栠栢-栨栫-栱栴栵栶栺栻栿桇桋桍桏桒桖-桟桪桬-桳桵桸-梀梂梄梇-梎梐梑梒梔梕梖梘-梡梣梤梥梩-梬
    4236:梮梱梲梴梶-梿棁棃-棈棊棌棎-棑棓棔棖棗棙棛-棟棡棢棤-棭棯棲棳棴棶棷棸棻棽-椀椂椃椄椆-椊椌椏椑椓-椞椡椢椣椥-椬椮椯椱椲椳椵-椸椺椻椼椾楀楁楃-楓楕楖楘楙楛楜楟楡
    4371:楢楤楥楧-楪楬業楯楰楲-楶楺楻楽楾楿榁榃榅榊榋榌榎-榓榖榗榙榚榝-榦榩榪榬榮榯榰榲榳榵榶榸榹榺榼-槀槂-槉構槍槏槑槒槓槕-槚槜槝槞槡-槬槮-槱槳-槼槾樀-樉樋-樖
    4508:標-樞樠樢-樧権樫-樮樰樲樳樴樶-樼樿-橃橅橆橈-橏橑-橗橚橜-橠橢橣橤橦-橰橲-橸橺橻橽橾橿檁檂檃檅-檍檏檒-檖檘-檟檡-檨檪檭-欟欥欦欨-欱欳-欶欸欻欼欽欿-歂歄
    4766:歅歈歊歋歍-歘歚-歡歨歩歫-歸歺歽-殀殅殈殌殎-殑殔殕殗殘殙殜-殠殢-殩殫-殲殶殸-殾毀毃毄毆-毊毌毎毐毑毘毚毜-毠毢-毩毬毭毮毰毱毲毴毶毷毸毺毻毼毾-氄氈-氌氎氒気
    4907:氜氝氞氠氣氥氫氬氭氱氳氶氷氹-氼氾氿汃汄汅汈汋-汏汑汒汓汖汘汙汚汢汣汥汦汧汫-汯汱汳汵汷汸決汻汼汿沀沄沇沊沋沍沎沑沒沕-沘沚沜沝沞沠沢沨沬沯沰沴-沷沺泀-泃泆泇泈泋泍
    4998:泎泏泑泒泘泙泚泜泝泟泤泦泧泩泬泭泲泴泹泿洀洂洃洅洆洈洉洊洍洏洐洑洓-洖洘洜洝洟-洤洦洨洩洬洭洯洰洴洶洷洸洺洿浀浂浄浉浌浐浕-浘浛浝浟浡浢浤浥浧浨浫浬浭浰-浳浵浶浹浺浻
    5087:浽-涁涃涄涆涇涊涋涍涏涐涒涖-涚涜涢涥涬涭涰涱涳涴涶涷涹-涾淁淂淃淈淉淊淍-淐淒-淕淗淚淛淜淟淢淣淥淧-淪淭淯淰淲淴淵淶淸淺淽-渄渆-渉渋渏渒渓渕渘渙減渜渞渟渢渦渧渨
    5186:渪測渮渰渱渳渵渶渷渹渻-湂湅-湌湏-湒湕湗湙湚湜湝湞湠-湪湬湭湯-湽満溁溂溄溇溈溊-溎溑-溗溙溚溛溝溞溠溡溣溤溦溨溩溫-溮溰溳溵溸溹溼溾溿滀滃-滆滈滉滊滌滍滎滐滒滖滘
    5308:滙滛滜滝滣滧滪-滳滵-滸滺-漁漃漄漅漇漈漊-漎漐漑漒漖-漟漡漢漣漥-漨漬漮漰漲漴漵漷-漽漿-潅潈潉潊潌潎-潗潙潚潛潝潟潠潡潣潤潥潧-潬潯潰潱潳潵潶潷潹潻潽-澃澅澆澇澊
    5436:澋澏-澛澝-澠澢-澦澨-澲澴澵澷澸澺-澿濁濃-濈濊-濐濓-濝濟濢-濭濰-瀐瀒-瀙瀜-瀢瀤-瀴瀶瀷瀸瀺-灋灍灎灐-灝灟-灪灮灱-灴灷灹灺灻災炁-炄炆炇炈炋炌炍炏炐炑炓炗
    5657:炘炚炛炞-炪炰炲炴炵炶為炾炿烄-烇烉烋-烗烚烜烝烞烠-烣烥烪烮烰-烶烸烺烻烼烾-焈焋-焏焑焒焔焗焛-焥焧-焮焲-焵焷-煄煆-煉煋煍煏-煛煝煟-煣煥煩-煭煯煰煱煴-煷煹
    5817:煻煼煾-熃熅-熉熋-熎熐-熓熕熖熗熚-熞熡-熧熩熪熫熭-熲熴熶熷熸熺-燂燄-燍燏-燓燖-營燡-燤燦燨-燭燯-燸燺-爅爇-爜爞-爧爩爫爭爮爯爲爳爴爺爼爾牀-牆牉牊牋
    5986:牎-牑牓牔牕牗牘牚牜牞牠牣牤牥牨牪-牭牰牱牳牴牶牷牸牻牼牽犂犃犅-犉犌犎犐犑犓-犞犠-犫犮犱犲犳犵犺-狀狅狆狇狉-狌狏狑狓-狖狘狚狛\ue4c6-\ue525
    6176:\u3000、。·ˉˇ¨〃々—～‖…‘’“”〔〕〈-』〖〗【】±×÷∶∧∨∑∏∪∩∈∷√⊥∥∠⌒⊙∫∮≡≌≈∽∝≠≮≯≤≥∞∵∴♂♀°′″℃＄¤￠￡‰§№☆★○●◎◇
    6259:◆□■△▲※→←↑↓〓\ue526-\ue585ⅰ-ⅹ\ue766-\ue76b⒈-⒛⑴-⒇①-⑩€\ue76d㈠-㈩\ue76e\ue76fⅠ-Ⅻ\ue770
    6459:\ue771\ue586-\ue5e4\u3000！＂＃￥％-｝￣\ue5e6-\ue645ぁ-ん\ue772-\ue77c\ue646-\ue6a5ァ-ヶ
    7022:\ue77d-\ue784\ue6a6-\ue705Α-ΡΣ-Ω\ue785-\ue78cα-ρσ-ω︐︒︑︓-︖︵︶︹︺︿﹀︽︾﹁-﹄︗︘︻︼︷︸︱︙︳︴
    7211:\ue797-\ue79f\ue706-\ue765А-ЕЁЖ-Я\ue7a0-\ue7aeа-еёж-я\ue7af-\ue7bbˊˋ˙–―‥‵℅℉↖-↙∕∟∣≒≦
    7428:≧⊿═-╳▁-▏▓▔▕▼▽◢-◥☉⊕〒〝〞\ue7bc-\ue7c6āáǎàēéěèīíǐìōóǒòūúǔùǖǘǚǜüêɑḿńňǹɡ\ue7c9-\ue7ccㄅ-ㄩ
    7579:\ue7cd-\ue7e1〡-〩㊣㎎㎏㎜㎝㎞㎡㏄㏎㏑㏒㏕︰￢￤\ue7e2℡㈱\ue7e3‐\ue7e4\ue7e5\ue7e6ー゛゜ヽヾ〆ゝゞ﹉-﹒﹔-﹗﹙-﹦
    7668:﹨-﹫〾⿰-⿻〇\ue7f4-\ue800─-╋\ue801-\ue80f狜狝狟狢-狧狪狫狵狶狹狽-猀猂猄-猉猋猌猍猏-猒猔猘猙猚猟猠猣猤猦猧猨猭猯猰猲猳猵猶猺-猽
    7844:獀-獌獎獏獑獓-獖獘-獟獡-獫獮獰獱\ue000-\ue05d獲-獽獿-玃玅玆玈玊玌玍玏玐玒-玕玗-玚玜玝玞玠玡玣-玨玪玬玭玱玴玵玶玸玹玼-玿珁珃-珇珋珌珎珒-珘
    8053:珚-珝珟珡-珤珦珨珪珫珬珮-珱珳-珷\ue05e-\ue0bb珸-琂琄琇琈琋-琎琑-琙琜-琡琣琤琧琩琫琭琯琱琲琷-琻琽-瑀瑂-瑔瑖瑘瑝瑠-瑬瑮瑯瑱-瑵瑸瑹瑺
    8266:\ue0bc-\ue119瑻瑼瑽瑿璂璄璅璆璈璉璊璌璍璏璑-璛璝璟-璦璪-璹璻-瓑瓓-瓛瓝瓟瓡瓥瓧-瓭瓰瓱瓲\ue11a-\ue177瓳瓵瓸-瓾甀-甃甅-甌甎甐甒甔-甗
    8578:甛甝甞甠-甤甦甧甪甮甴甶甹甼甽甿畁-畄畆畇畉畊畍畐-畓畕-畘畝-畤畧畨畩畫-畱畳畵當畷畺-畾疀疁疂疄疅疇\ue178-\ue1d5疈疉疊疌疍疎疐疓疕疘疛疜疞疢疦-疪疭
    8760:疶疷疺疻疿痀痁痆痋痌痎-痑痓痗痙痚痜痝痟痠痡痥痩痬-痯痲痳痵-痸痺痻痽痾瘂瘄瘆-瘉瘋瘍瘎瘏瘑-瘔瘖瘚瘜瘝瘞瘡瘣瘧瘨瘬瘮瘯瘱瘲瘶瘷瘹瘺瘻瘽癁療癄
    8836:\ue1d6-\ue233癅-癋癎-癓癕癗-癛癝癟-癢癤-癪癬癭癮癰-癷癹発發癿皀皁皃皅皉皊皌皍皏皐皒皔皕皗皘皚-皣皥-皭皯皰皳皵-皾盀盁盃啊阿埃挨哎唉哀皑癌蔼矮艾碍
    9039:爱隘鞍氨安俺按暗岸胺案肮昂盎凹敖熬翱袄傲奥懊澳芭捌扒叭吧笆八疤巴拔跋靶把耙坝霸罢爸白柏百摆佰败拜稗斑班搬扳般颁板版扮拌伴瓣半办绊邦帮梆榜膀绑棒磅蚌镑傍谤苞胞包褒剥盄盇
    9122:盉盋盌盓盕盙盚盜盝盞盠-盤盦-盭盰盳盵盶盷盺盻盽盿眀眂眃眅眆眊県眎-眘眛-眞眡眣眤眥眧眪眫眬眮眰-眴眹眻眽眾眿睂睄睅睆睈-睏睒-睙睜薄雹保堡饱宝抱报暴豹鲍爆杯碑悲卑北
    9233:辈背贝钡倍狈备惫焙被奔苯本笨崩绷甭泵蹦迸逼鼻比鄙笔彼碧蓖蔽毕毙毖币庇痹闭敝弊必辟壁臂避陛鞭边编贬扁便变卞辨辩辫遍标彪膘表鳖憋别瘪彬斌濒滨宾摈兵冰柄丙秉饼炳睝-睠睤睧睩
    9317:睪睭-睸睺睻睼瞁瞂瞃瞆-瞋瞏瞐瞓-瞞瞡瞣瞤瞦瞨瞫瞭瞮瞯瞱瞲瞴瞶-瞺瞼瞾矀-矌矎-矖矘矙矚矝-矡矤病并玻菠播拨钵波博勃搏铂箔伯帛舶脖膊渤泊驳捕卜哺补埠不布步簿部怖擦猜裁
    9441:材才财睬踩采彩菜蔡餐参蚕残惭惨灿苍舱仓沧藏操糙槽曹草厕策侧册测层蹭插叉茬茶查碴搽察岔差诧拆柴豺搀掺蝉馋谗缠铲产阐颤昌猖矦矨矪矯-矲矴矵矷矹-矼砃-砈砊砋砎砏砐砓砕砙砛
    9529:砞砠砡砢砤砨砪砫砮砯砱砲砳砵砶砽砿硁-硄硆硈-硋硍硏硑硓硔硘-硜硞-硩硯-硶硸-硻硽-碃场尝常长偿肠厂敞畅唱倡超抄钞朝嘲潮巢吵炒车扯撤掣彻澈郴臣辰尘晨忱沉陈趁衬撑称城
    9635:橙成呈乘程惩澄诚承逞骋秤吃痴持匙池迟弛驰耻齿侈尺赤翅斥炽充冲虫崇宠抽酬畴踌稠愁筹仇绸瞅丑臭初出橱厨躇锄雏滁除楚碄碅碆碈碊碋碏碐碒碔碕碖碙碝碞碠碢碤碦碨-碯碵-碸確-碽
    9725:碿磀磂磃磄磆磇磈磌-磏磑磒磓磖磗磘磚-磧磩磪磫磭-磱磳磵磶磸磹磻-礀礂礃礄礆-礌础储矗搐触处揣川穿椽传船喘串疮窗幢床闯创吹炊捶锤垂春椿醇唇淳纯蠢戳绰疵茨磁雌辞慈瓷词此
    9829:刺赐次聪葱囱匆从丛凑粗醋簇促蹿篡窜摧崔催脆瘁粹淬翠村存寸磋撮搓措挫错搭达答瘩打大呆歹傣戴带殆代贷袋待逮礍-礒礔-礝礟-礣礥-礳礵-礹礽礿祂-祅祇祊-祒祔祕祘祙祡祣祤祦
    9945:祩-祬祮祰-祶祹祻-祿禂禃禆-禉禋-禎禐禑禒怠耽担丹单郸掸胆旦氮但惮淡诞弹蛋当挡党荡档刀捣蹈倒岛祷导到稻悼道盗德得的蹬灯登等瞪凳邓堤低滴迪敌笛狄涤翟嫡抵底地蒂第帝弟递
    10037:缔颠掂滇碘点典靛垫电佃甸店惦奠淀殿碉叼雕凋刁掉吊钓调跌爹碟蝶迭谍叠禓-禙禛-禦禨-禲禴-禸禼禿秂秄秅秇秈秊秌秎秏秐秓秔秖秗秙-秞秠秡秢秥秨秪秬秮秱-秷秹秺秼秾秿稁稄
    10149:稅稇-稊稌稏-稓稕稖稘稙稛稜丁盯叮钉顶鼎锭定订丢东冬董懂动栋侗恫冻洞兜抖斗陡豆逗痘都督毒犊独读堵睹赌杜镀肚度渡妒端短锻段断缎堆兑队对墩吨蹲敦顿囤钝盾遁掇哆多夺垛躲朵
    10234:跺舵剁惰堕蛾峨鹅俄额讹娥恶厄扼遏鄂饿恩而儿耳尔饵洱二稝稟稡稢稤-稲稴稵稶稸稺稾穀-穅穇-穐穒-穖穘-穯穱穲穳穵穻-穾窂窅窇窉-窌窎窏窐窓窔窙窚窛窞窡窢贰发罚筏伐乏阀
    10363:法珐藩帆番翻樊矾钒繁凡烦反返范贩犯饭泛坊芳方肪房防妨仿访纺放菲非啡飞肥匪诽吠肺废沸费芬酚吩氛分纷坟焚汾粉奋份忿愤粪丰封枫蜂峰锋风疯烽逢冯缝讽奉凤佛否夫敷肤孵扶拂辐幅
    10445:氟符伏俘服窣窤窧窩窪窫窮-窲窴-窾竀-竊竌-竕竗竘竚-竝竡竢竤竧-竬竮竰-竸竻竼竾笀笁笂笅笇笉笌笍笎笐笒笓笖笗笘笚笜笝笟笡笢笣笧笩笭浮涪福袱弗甫抚辅俯釜斧脯腑府腐赴
    10562:副覆赋复傅付阜父腹负富讣附妇缚咐噶嘎该改概钙盖溉干甘杆柑竿肝赶感秆敢赣冈刚钢缸肛纲岗港杠篙皋高膏羔糕搞镐稿告哥歌搁戈鸽胳疙割革葛格蛤阁隔铬个各给根跟耕更庚羹笯笰笲
    10643:笴-笷笹笻笽笿-筄筆筈筊筍筎筓筕筗筙筜筞筟筡筣-筭筯筰筳筴筶筸筺筼筽筿箁-箄箆-箌箎箏箑箒箓箖箘-箛箞箟箠箣箤箥箮箯箰箲箳箵箶箷箹-節篂篃範埂耿梗工攻功恭龚供躬公宫
    10748:弓巩汞拱贡共钩勾沟苟狗垢构购够辜菇咕箍估沽孤姑鼓古蛊骨谷股故顾固雇刮瓜剐寡挂褂乖拐怪棺关官冠观管馆罐惯灌贯光广逛瑰规圭硅归龟闺轨鬼诡癸桂柜跪贵刽辊滚棍锅郭国果裹过哈
    10830:篅篈-篋篍-篐篒篔-篘篛篜篞篟篠篢篣篤篧篨篩篫篬篭篯篰篲-篶篸-篻篽篿-簆簈簉簊簍簎簐-簕簗-簞簠-簥簨簩簫-簷簹-簾籂骸孩海氦亥害骇酣憨邯韩含涵寒函喊罕翰撼捍旱憾
    10948:悍焊汗汉夯杭航壕嚎豪毫郝好耗号浩呵喝荷菏核禾和何合盒貉阂河涸赫褐鹤贺嘿黑痕很狠恨哼亨横衡恒轰哄烘虹鸿洪宏弘红喉侯猴吼厚候后呼乎忽瑚壶葫胡蝴狐糊湖籃-籌籎-籲籵-籺
    11073:籾-粈粊-粐粓粔粖粙粚粛粠粡粣粦-粩粫粬粭粯粰粴-粸粺粻弧虎唬护互沪户花哗华猾滑画划化话槐徊怀淮坏欢环桓还缓换患唤痪豢焕涣宦幻荒慌黄磺蝗簧皇凰惶煌晃幌恍谎灰挥辉徽恢
    11170:蛔回毁悔慧卉惠晦贿秽会烩汇讳诲绘荤昏婚魂浑混豁活伙火获或惑霍货祸击圾基机畸稽积箕粿糀糂糃糄糆糉糋糎-糔糘糚糛糝糞糡-糧糩-糮糰-糷糹糺糼-紉紋-紟紡紣-紦紨紩紪紬紭
    11298:紮細-紶肌饥迹激讥鸡姬绩缉吉极棘辑籍集及急疾汲即嫉级挤几脊己蓟技冀季伎祭剂悸济寄寂计记既忌际妓继纪嘉枷夹佳家加荚颊贾甲钾假稼价架驾嫁歼监坚尖笺间煎兼肩艰奸缄茧检柬碱
    11384:硷拣捡简俭剪减荐槛鉴践贱见键箭件紷-絭絯-絶絸-綘健舰剑饯渐溅涧建僵姜将浆江疆蒋桨奖讲匠酱降蕉椒礁焦胶交郊浇骄娇嚼搅铰矫侥脚狡角饺缴绞剿教酵轿较叫窖揭接皆秸街阶截劫
    11553:节桔杰捷睫竭洁结解姐戒藉芥界借介疥诫届巾筋斤金今津襟紧锦仅谨进靳晋禁近烬浸継-綥綧-維綯-緺尽劲荆兢茎睛晶鲸京惊精粳经井警景颈静境敬镜径痉靖竟竞净炯窘揪究纠玖韭久灸
    11722:九酒厩救旧臼舅咎就疚鞠拘狙疽居驹菊局咀矩举沮聚拒据巨具距踞锯俱句惧炬剧捐鹃娟倦眷卷绢撅攫抉掘倔爵觉决诀绝均菌钧军君峻緻-縺縼-繀繂-繆繈-繝俊竣浚郡骏喀咖卡咯开揩楷
    11888:凯慨刊堪勘坎砍看康慷糠扛抗亢炕考拷烤靠坷苛柯棵磕颗科壳咳可渴克刻客课肯啃垦恳坑吭空恐孔控抠口扣寇枯哭窟苦酷库裤夸垮挎跨胯块筷侩快宽款匡筐狂框矿眶旷况亏盔岿窥葵奎魁傀
    11970:繞-纁纃-纚纜纝纞纮纴纻纼绖绤绬绹缊缐缞缷缹缻-罁罃罆-罏罒罓馈愧溃坤昆捆困括扩廓阔垃拉喇蜡腊辣啦莱来赖蓝婪栏拦篮阑兰澜谰揽览懒缆烂滥琅榔狼廊郎朗浪捞劳牢老佬姥酪烙
    12117:涝勒乐雷镭蕾磊累儡垒擂肋类泪棱楞冷厘梨犁黎篱狸离漓理李里鲤礼莉荔吏栗丽厉励砾历利傈例俐罖罙罛-罞罠罣-罧罫罬罭罯罰罳罵-罸罺-罽罿羀羂-羉羋羍羏-羓羕-羙羛羜羠羢羣
    12213:羥羦羨-羮羱羳-羷羺羻羾翀翂翃翄翆-翉翋翍翏-翓翖翗翙-翞翢翣痢立粒沥隶力璃哩俩联莲连镰廉怜涟帘敛脸链恋炼练粮凉梁粱良两辆量晾亮谅撩聊僚疗燎寥辽潦了撂镣廖料列裂烈劣
    12307:猎琳林磷霖临邻鳞淋凛赁吝拎玲菱零龄铃伶羚凌灵陵岭领另令溜琉榴硫馏留刘瘤流柳六龙聋咙笼窿翤翧翨翪-翭翯翲翴-翺翽翾翿耂耇-耊耎耏耑耓耚耛耝耞耟耡耣耤耫-耰耲耴耹耺耼耾
    12398:聀聁聄聅聇聈聉聎-聑聓聕聖聗聙聛-聨聫-聰聲-聽隆垄拢陇楼娄搂篓漏陋芦卢颅庐炉掳卤虏鲁麓碌露路赂鹿潞禄录陆戮驴吕铝侣旅履屡缕虑氯律率滤绿峦挛孪滦卵乱掠略抡轮伦仑沦纶
    12504:论萝螺罗逻锣箩骡裸落洛骆络妈麻玛码蚂马骂嘛吗埋买麦卖迈脉瞒馒蛮满蔓曼慢漫聾肁肂肅肈肊肍-肒肔肕肗肙肞肣肦肧肨肬肰肳肵肶肸肹肻胅胇-胋胏-胕胘胟胠胢胣胦胮胵胷胹胻
    12593:胾-脁脃脄脅脇脈脋脌脕脗脙脛脜脝脟-脫脭脮脰脳脴脵脷脹-脽脿谩芒茫盲氓忙莽猫茅锚毛矛铆卯茂冒帽貌贸么玫枚梅酶霉煤没眉媒镁每美昧寐妹媚门闷们萌蒙檬盟锰猛梦孟眯醚靡糜迷
    12688:谜弥米秘觅泌蜜密幂棉眠绵冕免勉娩缅面苗描瞄藐秒渺庙妙蔑灭民抿皿敏悯闽明螟鸣铭名命谬摸腀-腅腇腉腍腎腏腒腖腗腘腛-腟腡-腤腦腨腪腫腬腯腲腳腵-腸膁膃-膇膉膋-膎膐
    12778:膒-膗膙膚膞-膢膤膥膧膩膫-膲膴-膹膼-膿臄臅臇臈臉臋臍-臓摹蘑模膜磨摩魔抹末莫墨默沫漠寞陌谋牟某拇牡亩姆母墓暮幕募慕木目睦牧穆拿哪呐钠那娜纳氖乃奶耐奈南男难囊挠脑
    12878:恼闹淖呢馁内嫩能妮霓倪泥尼拟你匿腻逆溺蔫拈年碾撵捻念娘酿鸟尿捏聂孽啮镊镍涅您柠狞凝宁臔-臢臤臥臦臨臩臫臮-臲臵-臺臽臿舃與-舋舎舏舑舓舕-舚舝舠舤-舧舩舮舲舺舼舽
    12982:舿-艃艅艆艈艊艌艍艎艐-艗艙艛-艞艠-艧艩拧泞牛扭钮纽脓浓农弄奴努怒女暖虐疟挪懦糯诺哦欧鸥殴藕呕偶沤啪趴爬帕怕琶拍排牌徘湃派攀潘盘磐盼畔判叛乓庞旁耪胖抛咆刨炮袍跑泡
    13077:呸胚培裴赔陪配佩沛喷盆砰抨烹澎彭蓬棚硼篷膨朋鹏捧碰坯砒霹批披劈琵毗艪-艭艱艵-艸艻艼芀芁芃芅芆芇芉芌芐芓-芖芚芛芞芠芢芣芧芲芵芶芺芻芼芿苀苂苃苅苆苉苐苖苙苚苝苢
    13160:苧-苪苬苭苮苰苲苳苵苶苸苺苼-茀茊茋茍茐茒茓茖茘茙茝-茦茩茪茮茰茲茷茻茽啤脾疲皮匹痞僻屁譬篇偏片骗飘漂瓢票撇瞥拼频贫品聘乒坪苹萍平凭瓶评屏坡泼颇婆破魄迫粕剖扑铺仆莆
    13252:葡菩蒲埔朴圃普浦谱曝瀑期欺栖戚妻七凄漆柒沏其棋奇歧畦崎脐齐旗祈祁骑起岂乞企启契砌器气迄弃汽泣讫掐茾茿荁荂荄荅荈荊-荎荓荕-荙荝荢荰-荶荹荺荾-莄莇莈莊-莍莏莐莑
    13345:莔-莗莙莚莝莟莡-莧莬-莯莵莻莾莿菂菃菄菆菈菉菋菍菎菐-菓菕菗菙菚菛菞菢菣菤菦菧菨菫菬菭恰洽牵扦钎铅千迁签仟谦乾黔钱钳前潜遣浅谴堑嵌欠歉枪呛腔羌墙蔷强抢橇锹敲悄桥瞧
    13434:乔侨巧鞘撬翘峭俏窍切茄且怯窃钦侵亲秦琴勤芹擒禽寝沁青轻氢倾卿清擎晴氰情顷请庆琼穷秋丘邱球求囚酋泅趋区蛆曲躯屈驱渠菮華菳-菷菺菻菼菾菿萀萂萅萇-萊萐萒-萗萙萚萛萞-萣
    13525:萩-萰萲-萷萹萺萻萾-葅葇-葐葒-葖葘葝-葠葢葤-葨葪葮葯葰葲葴葷葹葻葼取娶龋趣去圈颧权醛泉全痊拳犬券劝缺炔瘸却鹊榷确雀裙群然燃冉染瓤壤攘嚷让饶扰绕惹热壬仁人忍韧任
    13632:认刃妊纫扔仍日戎茸蓉荣融熔溶容绒冗揉柔肉茹蠕儒孺如辱乳汝入褥软阮蕊瑞锐闰润若弱撒洒萨腮鳃塞赛三叁葽-蒁蒃-蒆蒊蒍蒏-蒖蒘蒚蒛蒝-蒠蒢-蒮蒰蒱蒳蒵蒶蒷蒻蒼蒾蓀蓂蓃
    13731:蓅-蓈蓋蓌蓎蓏蓒蓔蓕蓗-蓜蓞蓡蓢蓤蓧-蓫蓭蓮蓯蓱-蓻蓽蓾蔀蔁蔂伞散桑嗓丧搔骚扫嫂瑟色涩森僧莎砂杀刹沙纱傻啥煞筛晒珊苫杉山删煽衫闪陕擅赡膳善汕扇缮墒伤商赏晌上尚裳梢捎
    13827:稍烧芍勺韶少哨邵绍奢赊蛇舌舍赦摄射慑涉社设砷申呻伸身深娠绅神沈审婶甚肾慎渗声生甥牲升绳蔃-蔋蔍-蔐蔒蔔蔕蔖蔘蔙蔛-蔞蔠蔢-蔪蔭-蔶蔾-蕂蕄-蕇蕋-蕕蕗蕘蕚-蕝蕟-蕣
    13944:蕥蕦蕧蕩-蕱蕳蕵-蕸蕼蕽蕿薀薁省盛剩胜圣师失狮施湿诗尸虱十石拾时什食蚀实识史矢使屎驶始式示士世柿事拭誓逝势是嗜噬适仕侍释饰氏市恃室视试收手首守寿授售受瘦兽蔬枢梳殊抒
    14033:输叔舒淑疏书赎孰熟薯暑曙署蜀黍鼠属术述树束戍竖墅庶数漱薂薃薆薈-薎薐-薚薝-薣薥薦薧薩薫薬薭薱-薶薸薺-藀藂-藈藊-藎藑藒藔藖-藛藝-藣藥-藨藪-藸恕刷耍摔衰甩帅栓
    14164:拴霜双爽谁水睡税吮瞬顺舜说硕朔烁斯撕嘶思私司丝死肆寺嗣四伺似饲巳松耸怂颂送宋讼诵搜艘擞嗽苏酥俗素速粟僳塑溯宿诉肃酸蒜算虽隋随绥髓碎岁穗遂隧祟孙损笋蓑梭唆缩琐索锁所塌
    14246:他它她塔藹藺藼藽藾蘀-蘄蘆-蘐蘒-蘕蘗-蘦蘨蘪-蘷蘹蘺蘻蘽-虌虒虓處-虙虛虜虝號虠虡虣-虪獭挞蹋踏胎苔抬台泰酞太态汰坍摊贪瘫滩坛檀痰潭谭谈坦毯袒碳探叹炭汤塘搪堂棠膛
    14383:唐糖倘躺淌趟烫掏涛滔绦萄桃逃淘陶讨套特藤腾疼誊梯剔踢锑提题蹄啼体替嚏惕涕剃屉天添填田甜恬舔腆挑条迢眺跳贴铁帖厅听烃虭虯虰虲-虸蚃-蚉蚎-蚒蚔蚖-蚛蚞-蚢蚥蚦蚫蚭蚮蚲
    14480:蚳蚷蚸蚹蚻-蚿蛁蛂蛃蛅蛈蛌蛍蛒蛓蛕蛖蛗蛚蛜蛝蛠-蛣蛥-蛨蛪蛫蛬蛯蛵蛶蛷蛺-蛽蛿蜁蜄蜅蜆蜋蜌蜎-蜑蜔蜖汀廷停亭庭挺艇通桐酮瞳同铜彤童桶捅筒统痛偷投头透凸秃突图徒途涂屠
    14568:土吐兔湍团推颓腿蜕褪退吞屯臀拖托脱鸵陀驮驼椭妥拓唾挖哇蛙洼娃瓦袜歪外豌弯湾玩顽丸烷完碗挽晚皖惋宛婉万腕汪王亡枉网往旺望忘妄威蜙蜛蜝蜟蜠蜤蜦蜧蜨蜪-蜭蜯蜰蜲蜳蜵蜶蜸蜹
    14651:蜺蜼蜽蝀-蝆蝊蝋蝍蝏-蝒蝔蝕蝖蝘蝚-蝟蝡蝢蝦-蝭蝯蝱蝲蝳蝵蝷-蝺蝿螀螁螄螆螇螉螊螌螎-螒螔螕螖螘-螞螠-螤巍微危韦违桅围唯惟为潍维苇萎委伟伪尾纬未蔚味畏胃喂魏位渭谓
    14755:尉慰卫瘟温蚊文闻纹吻稳紊问嗡翁瓮挝蜗涡窝我斡卧握沃巫呜钨乌污诬屋无芜梧吾吴毋武五捂午舞伍侮坞戊雾晤物勿务悟误昔熙析西硒矽晰嘻吸锡牺螥螦螧螩螪螮螰螱螲螴螶-螹螻螼螾螿
    14838:蟁-蟅蟇蟈蟉蟌-蟐蟔-蟚蟜-蟟蟡-蟤蟦-蟩蟫蟬蟭蟯-蟸蟺-蟽蟿-蠂蠄-蠉蠋-蠒蠔蠗-蠚蠜-蠠蠣稀息希悉膝夕惜熄烯溪汐犀檄袭席习媳喜铣洗系隙戏细瞎虾匣霞辖暇峡侠狭下厦
    14951:夏吓掀锨先仙鲜纤咸贤衔舷闲涎弦嫌显险现献县腺馅羡宪陷限线相厢镶香箱襄湘乡翔祥详想响享项巷橡像向象萧硝霄削哮嚣销消宵淆晓蠤-蠱蠳-蠸蠺蠻蠽蠾蠿衁衂衃衆-衋衎-術衕衖衘
    15053:衚-衠衦衧衪衭衯衱衳-衶衸-衼袀袃袆袇袉袊袌袎-袑袓袔袕袗-袛袝-袡袣袥-袪小孝校肖啸笑效楔些歇蝎鞋协挟携邪斜胁谐写械卸蟹懈泄泻谢屑薪芯锌欣辛新忻心信衅星腥猩惺兴刑
    15150:型形邢行醒幸杏性姓兄凶胸匈汹雄熊休修羞朽嗅锈秀袖绣墟戌需虚嘘须徐许蓄酗叙旭序畜恤絮婿绪续轩喧宣悬旋玄袬袮袯袰袲-袶袸-袻袽-裀裃裄裇裈裊-裍裏裐裑裓裖裗裚-裞裠裡裦
    15239:裧裩-裯裲裵裶裷裺裻製裿褀褁褃-褉褋-褏褑褔-褘褜-褠褢褣褤褦-褩褬-褯褱褲褳褵褷选癣眩绚靴薛学穴雪血勋熏循旬询寻驯巡殉汛训讯逊迅压押鸦鸭呀丫芽牙蚜崖衙涯雅哑亚讶焉
    15337:咽阉烟淹盐严研蜒岩延言颜阎炎沿奄掩眼衍演艳堰燕厌砚雁唁彦焰宴谚验殃央鸯秧杨扬佯疡羊洋阳氧仰痒养样漾邀腰妖瑶褸-襀襂襃襅-襝襠-襥襧-襺襼襽襾覀覂覄覅覇-覡摇尧遥窑谣
    15491:姚咬舀药要耀椰噎耶爷野冶也页掖业叶曳腋夜液一壹医揖铱依伊衣颐夷遗移仪胰疑沂宜姨彝椅蚁倚已乙矣以艺抑易邑屹亿役臆逸肄疫亦裔意毅忆义益溢诣议谊译异翼翌绎茵荫因殷音阴姻吟
    15573:银淫寅饮尹引隐覢-觀觃觍觓觔觕觗觘觙觛觝觟-觢觤觧-觪觬觭觮觰觱觲觴-觿訁-訆計-訝印英樱婴鹰应缨莹萤营荧蝇迎赢盈影颖硬映哟拥佣臃痈庸雍踊蛹咏泳涌永恿勇用幽优悠忧尤
    15716:由邮铀犹油游酉有友右佑釉诱又幼迂淤于盂榆虞愚舆余俞逾鱼愉渝渔隅予娱雨与屿禹宇语羽玉域芋郁吁遇喻峪御愈欲狱育誉訞-訽訿-詇詉-詸詺-誀浴寓裕预豫驭鸳渊冤元垣袁原援辕园
    15882:员圆猿源缘远苑愿怨院曰约越跃钥岳粤月悦阅耘云郧匀陨允运蕴酝晕韵孕匝砸杂栽哉灾宰载再在咱攒暂赞赃脏葬遭糟凿藻枣早澡蚤躁噪造皂灶燥责择则泽贼怎增憎曾赠扎喳渣札轧誁-誈
    15968:誋-誒誔-諣铡闸眨栅榨咋乍炸诈摘斋宅窄债寨瞻毡詹粘沾盏斩辗崭展蘸栈占战站湛绽樟章彰漳张掌涨杖丈帐账仗胀瘴障招昭找沼赵照罩兆肇召遮折哲蛰辙者锗蔗这浙珍斟真甄砧臻贞针侦
    16132:枕疹诊震振镇阵蒸挣睁征狰争怔整拯正政諤-謆謈-謥謧-譅帧症郑证芝枝支吱蜘知肢脂汁之织职直植殖执值侄址指止趾只旨纸志挚掷至致置帜峙制智秩稚质炙痔滞治窒中盅忠钟衷终种肿
    16301:重仲众舟周州洲诌粥轴肘帚咒皱宙昼骤珠株蛛朱猪诸诛逐竹烛煮拄瞩嘱主著柱助蛀贮铸筑譆-譥譧-譫譭-讟讬讱讻诇诐诪谉谞住注祝驻抓爪拽专砖转撰赚篆桩庄装妆撞壮状椎锥追赘坠缀
    16462:谆准捉拙卓桌琢茁酌啄着灼浊兹咨资姿滋淄孜紫仔籽滓子自渍字鬃棕踪宗综总纵邹走奏揍租足卒族祖诅阻组钻纂嘴醉最罪尊遵昨左佐柞做作坐座\ue810-\ue814谸-豀豂-豅
    16543:豈豊豋豍-豔豖-豙豛-豠豣-豩豬-豲豴-豷豻-貁貃貄貆貇貈貋貍-貓貕貖貗貙-貭亍丌兀丐廿卅丕亘丞鬲孬噩丨禺丿匕乇夭爻卮氐囟胤馗毓睾鼗丶亟鼐乜乩亓芈孛啬嘏仄厍厝厣厥厮
    16669:靥赝匚叵匦匮匾赜卦卣刂刈刎刭刳刿剀剌剞剡剜蒯剽劂劁劐劓冂罔亻仃仉仂仨仡仫仞伛仳伢佤仵伥伧伉伫佞佧攸佚佝貮-贍佟佗伲伽佶佴侑侉侃侏佾佻侪佼侬侔俦俨俪俅俚俣俜俑俟俸倩偌
    16844:俳倬倏倮倭俾倜倌倥倨偾偃偕偈偎偬偻傥傧傩傺僖儆僭僬僦僮儇儋仝氽佘佥俎龠汆籴兮巽黉馘冁夔勹匍訇匐凫夙兕亠兖亳衮袤亵脔裒禀嬴蠃羸冫冱冽冼贎-贜贠赑赒赗赟赥赨赩赪赬赮赯赱
    16938:赲赸-趀趂趃趆-趉趌-趐趒趓趕-趞趠趡趢趤-趰趲趶趷趹趻趽跀跁跂跅跇-跊跍跐跒跓跔凇冖冢冥讠讦讧讪讴讵讷诂诃诋诏诎诒诓诔诖诘诙诜诟诠诤诨诩诮诰诳诶诹诼诿谀谂谄谇谌谏
    17047:谑谒谔谕谖谙谛谘谝谟谠谡谥谧谪谫谮谯谲谳谵谶卩卺阝阢阡阱阪阽阼陂陉陔陟陧陬陲陴隈隍隗隰邗邛邝邙邬邡邴邳邶邺跕跘跙跜跠跡跢跥跦跧跩跭跮跰跱跲跴跶跼跾-踄踆踇踈踋踍踎
    17132:踐-踓踕-踜踠踡踤-踨踫踭踰踲踳踴踶踷踸踻踼踾踿蹃蹅蹆蹌-蹐蹓-蹘蹚-蹥蹧蹨蹪蹫蹮蹱邸邰郏郅邾郐郄郇郓郦郢郜郗郛郫郯郾鄄鄢鄞鄣鄱鄯鄹酃酆刍奂劢劬劭劾哿勐勖勰叟燮矍廴
    17236:凵凼鬯厶弁畚巯坌垩垡塾墼壅壑圩圬圪圳圹圮圯坜圻坂坩垅坫垆坼坻坨坭坶坳垭垤垌垲埏垧垴垓垠埕埘埚埙埒垸埴埯埸埤埝蹳蹵蹷-蹻蹽蹾躀躂躃躄躆躈-躎躑躒躓躕-躛躝躟-躪躭躮躰
    17337:躱躳-躹躻-軍軏-軤堋堍埽埭堀堞堙塄堠塥塬墁墉墚墀馨鼙懿艹艽艿芏芊芨芄芎芑芗芙芫芸芾芰苈苊苣芘芷芮苋苌苁芩芴芡芪芟苄苎芤苡茉苷苤茏茇苜苴苒苘茌苻苓茑茚茆茔茕苠苕茜荑
    17458:荛荜茈莒茼茴茱莛荞茯荏荇荃荟荀茗荠茭茺茳荦荥軥-轄荨茛荩荬荪荭荮莰荸莳莴莠莪莓莜莅荼莶莩荽莸荻莘莞莨莺莼菁萁菥菘堇萘萋菝菽菖萜萸萑萆菔菟萏萃菸菹菪菅菀萦菰菡葜葑葚葙
    17633:葳蒇蒈葺蒉葸萼葆葩葶蒌蒎萱葭蓁蓍蓐蓦蒽蓓蓊蒿蒺蓠蒡蒹蒴蒗蓥蓣蔌甍蔸蓰蔹蔟蔺轅-轥轪辀辌辒辝辠辡辢辤-辧辪辬-辯農-辵辷辸辺辻込辿迀迃迆迉-迍迏迒迖迗迚迠迡迣迧迬迯迱
    17750:迲迴迵迶迺迻迼迾迿逇逈逌逎逓逕逘蕖蔻蓿蓼蕙蕈蕨蕤蕞蕺瞢蕃蕲蕻薤薨薇薏蕹薮薜薅薹薷薰藓藁藜藿蘧蘅蘩蘖蘼廾弈夼奁耷奕奚奘匏尢尥尬尴扌扪抟抻拊拚拗拮挢拶挹捋捃掭揶捱捺掎掴
    17832:捭掬掊捩掮掼揲揸揠揿揄揞揎摒揆掾摅摁搋搛搠搌搦搡摞撄摭撖這逜連逤逥逧-逬逰-逴逷逹逺逽逿遀遃遅遆遈-遌過達違遖遙遚遜-遡遤遦遧適-遬遯-遳遶-遼遾邁還-邇邉邊邌-邐
    17934:邒邔邖邘邚邜邞邟邠邤邥邧邨邩邫邭邲邷邼邽邿郀摺撷撸撙撺擀擐擗擤擢攉攥攮弋忒甙弑卟叱叽叩叨叻吒吖吆呋呒呓呔呖呃吡呗呙吣吲咂咔呷呱呤咚咛咄呶呦咝哐咭哂咴哒咧咦哓哔呲咣哕
    18016:咻咿哌哙哚哜咩咪咤哝哏哞唛哧唠哽唔哳唢唣唏唑唧唪啧喏喵啉啭啁啕唿啐唼郂郃郆郈郉郋郌郍郒郔郕郖郘郙郚郞郟郠郣郤郥郩郪郬郮郰-郳郵郶郷郹-郼郿鄀鄁鄃鄅-鄘鄚-鄝鄟鄠鄡
    18117:鄤-鄮鄰鄲-鄸鄺-酂酄唷啖啵啶啷唳唰啜喋嗒喃喱喹喈喁喟啾嗖喑啻嗟喽喾喔喙嗪嗷嗉嘟嗑嗫嗬嗔嗦嗝嗄嗯嗥嗲嗳嗌嗍嗨嗵嗤辔嘞嘈嘌嘁嘤嘣嗾嘀嘧嘭噘嘹噗嘬噍噢噙噜噌噔嚆噤噱噫噻
    18217:噼嚅嚓嚯囔囗囝囡囵囫囹囿圄圊圉圜帏帙帔帑帱帻帼酅酇酈酑酓-酖酘酙酛酜酟酠酦酧酨酫酭酳酺酻酼醀-醄醆醈醊醎醏醓-醙醜-醡醤-醩醫醬醰-醳醶-醹醻-釆釈釋釐釒-釛針-釥
    18336:帷幄幔幛幞幡岌屺岍岐岖岈岘岙岑岚岜岵岢岽岬岫岱岣峁岷峄峒峤峋峥崂崃崧崦崮崤崞崆崛嵘崾崴崽嵬嵛嵯嵝嵫嵋嵊嵩嵴嶂嶙嶝豳嶷巅彳彷徂徇徉後徕徙徜徨徭徵徼衢彡犭犰犴犷犸狃狁狎
    18418:狍狒狨狯狩狲狴狷猁狳猃狺釦-鉅狻猗猓猡猊猞猝猕猢猹猥猬猸猱獐獍獗獠獬獯獾舛夥飧夤夂饣饧-饬饴饷饽馀馄馇馊馍馐馑馓馔馕庀庑庋庖庥庠庹庵庾庳赓廒廑廛廨廪膺忄忉忖忏怃忮怄
    18596:忡忤忾怅怆忪忭忸怙怵怦怛怏怍怩怫怊怿怡恸恹恻恺恂鉆-鉳鉵-銍銏-銧恪恽悖悚悭悝悃悒悌悛惬悻悱惝惘惆惚悴愠愦愕愣惴愀愎愫慊慵憬憔憧憷懔懵忝隳闩闫闱闳闵闶闼闾阃阄阆阈
    18764:阊-阍阏阒阕阖阗阙阚丬爿戕氵汔汜汊沣沅沐沔沌汨汩汴汶沆沩泐泔沭泷泸泱泗沲泠泖泺泫泮沱泓泯泾銨-銭銯-鋇鋉-錉洹洧洌浃浈洇洄洙洎洫浍洮洵洚浏浒浔洳涑浯涞涠浞涓涔浜浠浼
    18934:浣渚淇淅淞渎涿淠渑淦淝淙渖涫渌涮渫湮湎湫溲湟溆湓湔渲渥湄滟溱溘滠漭滢溥溧溽溻溷滗溴滏溏滂溟潢潆潇漤漕滹漯漶潋潴漪漉漩澉澍澌潸潲潼潺濑錊-錽錿-鍩鍫濉澧澹澶濂濡濮濞濠
    19105:濯瀚瀣瀛瀹瀵灏灞宀宄宕宓宥宸甯骞搴寤寮褰寰蹇謇辶迓迕迥迮迤迩迦迳迨逅逄逋逦逑逍逖逡逵逶逭逯遄遑遒遐遨遘遢遛暹遴遽邂邈邃邋彐彗彖彘尻咫屐屙孱屣屦羼弪弩弭艴弼鬻屮妁妃妍
    19187:妩妪妣鍬-鎎鎐-鏉鏋鏌鏍妗姊妫妞妤姒妲妯姗妾娅娆姝娈姣姘姹娌娉娲娴娑娣娓婀婧婊婕娼婢婵胬媪媛婷婺媾嫫媲嫒嫔媸嫠嫣嫱嫖嫦嫘嫜嬉嬗嬖嬲嬷孀尕尜孚孥孳孑孓孢驵驷驸驺驿驽骀
    19356:骁骅骈骊骐骒骓骖骘骛骜骝骟骠骢骣骥骧纟纡纣纥纨纩鏎-鏕鏗-鐮纭纰纾绀绁绂绉绋绌绐绔绗绛绠绡绨绫绮绯绱绲缍绶绺绻绾缁缂缃缇缈缋缌缏缑缒缗缙缜缛缟缡-缧缪-缭缯-缳缵幺
    19535:畿巛甾邕玎玑玮玢玟珏珂珑玷玳珀珉珈珥珙顼琊珩珧珞玺珲琏琪瑛琦琥琨琰琮琬鐯-鐽鐿-鑪鑬-钄钑钖钘铇铏铓铔铚铦铻锜锠琛琚瑁瑜瑗瑕瑙瑷瑭瑾璜璎璀璁璇璋璞璨璩璐璧瓒璺韪韫韬
    19692:杌杓杞杈杩枥枇杪杳枘枧杵枨枞枭枋杷杼柰栉柘栊柩枰栌柙枵柚枳柝栀柃枸柢栎柁柽栲栳桠桡桎桢桄桤梃栝桕桦桁桧桀栾桊桉栩梵梏桴桷梓桫棂楮棼椟椠棹锧锳锽镃镈镋镕镚镠镮镴镵
    19772:長-镾門-闋椤棰椋椁楗棣椐楱椹楠楂楝榄楫榀榘楸椴槌榇榈槎榉楦楣楹榛榧榻榫榭槔榱槁槊槟榕槠榍槿樯槭樗樘橥槲橄樾檠橐橛樵檎橹樽樨橘橼檑檐檩檗檫猷獒殁殂殇殄殒殓殍殚殛殡殪
    19932:轫轭轱轲轳轵轶轸轷轹轺轼轾辁辂辄辇辋闌-闧闬闿阇阓阘阛阞阠阣-阩阫阬阭阯阰阷-阺阾陁陃陊陎陏陑陒陓陖-陚陜陝陞陠陣陥陦陫陭-陱陳陸-隄隇隉隊辍辎辏辘辚軎戋戗戛戟戢戡
    20058:戥戤戬臧瓯瓴瓿甏甑甓攴旮旯旰昊昙杲昃昕昀炅曷昝昴昱昶昵耆晟晔晁晏晖晡晗晷暄暌暧暝暾曛曜曦曩贲贳贶贻贽赀赅赆赈赉赇赍赕赙觇觊觋觌觎-觑牮犟牝牦牯牾牿犄犋犍犏犒挈挲掰隌
    20141:階隑隒隓隕隖隚際隝-隦隨-隯隱隲隴隵隷隸隺隻隿雂雃雈雊雋雐雑雓雔雖-雟雡-雧雫-雮雰雱雲雴雵雸雺-雽雿霂霃霅霊霋霌霐霑霒霔霕霗-霛霝霟霠搿擘耄毪毳毽毵毹氅氇氆氍氕氘
    20250:氙氚氡氩氤氪氲攵敕敫牍牒牖爰虢刖肟肜肓肼朊肽肱肫肭肴肷胧-胪胛胂胄胙胍胗朐胝胫胱胴胭脍脎胲胼朕脒豚脶脞脬脘脲腈腌腓腴腙腚腱腠腩腼腽腭腧塍媵膈膂膑滕膣膪臌朦臊膻霡-霩
    20339:霫霬霮霯霱霳-霷霺-霽霿-靑靔靕靗靘靚靜靝靟靣靤靦靧靨靪-靲靵靷-靻靽-鞄鞆-鞊鞌鞎鞏鞐鞓鞕鞖鞗鞙-鞝臁膦欤欷欹歃歆歙飑飒飓飕飙飚殳彀毂觳斐齑斓於旆旄旃旌旎旒旖炀炜
    20457:炖炝炻烀炷炫炱烨烊焐焓焖焯焱煳煜煨煅煲煊煸煺熘熳熵熨熠燠燔燧燹爝爨灬焘煦熹戾戽扃扈扉礻祀祆祉祛祜祓祚祢祗祠祯祧祺禅禊禚禧禳忑忐鞞鞟鞡鞢鞤-鞪鞬鞮鞰鞱鞳鞵-韥韨韮-韲
    20591:韴韷-頎怼恝恚恧恁恙恣悫愆愍慝憩憝懋懑戆肀聿沓泶淼矶矸砀砉砗砘砑斫砭砜砝砹砺砻砟砼砥砬砣砩硎硭硖硗砦硐硇硌硪碛碓碚碇碜碡碣碲碹碥磔磙磉磬磲礅磴礓礤礞礴龛黹黻黼盱眄眍
    20694:盹眇眈眚眢眙眭眦眵眸睐睑睇睃睚睨頏-顮睢睥睿瞍睽瞀瞌瞑瞟瞠瞰瞵瞽町畀畎畋畈畛畲畹疃罘罡罟詈罨罴罱罹羁罾盍盥蠲钅钆钇钋钊钌钍钏钐钔钗钕钚钛钜钣钤钫钪钭钬钯钰钲钴钶-钺
    20871:钼钽钿铄铈-铎铐铑铒铕铖铗铙铘铛铞铟铠铢铤铥铧铨铪顯-顴颋颎颒颕颙颣風-飍飏飐飔飖飗飛飜飝飠-飦飩-餇铩铫铮铯铳铴铵铷铹铼铽铿锃锂锆锇锉锊锍锎锏锒-锖锘锛锝锞锟锢锪
    21029:锫锩锬锱锲锴锶锷锸锼锾锿镂锵镄镅镆镉镌镎镏镒镓镔镖-镙镛镞镟镝镡镢镤-镬镯镱镲镳锺矧矬雉秕秭秣秫稆嵇稃稂稞稔餈-餌餎餏餑-餭餯-饓饖-饢饤饦饳饸饹饻饾馂馃馉稹稷穑黏
    21190:馥穰皈皎皓皙皤瓞瓠甬鸠鸢鸨-鸬鸲鸱鸶鸸鸷鸹鸺鸾鹁鹂鹄鹆-鹉鹋鹌鹎鹑鹕鹗鹚鹛鹜鹞鹣鹦-鹬鹱鹭鹳疒疔疖疠疝疬疣疳疴疸痄疱疰痃痂痖痍痣痨痦痤痫痧瘃痱痼痿瘐瘀瘅瘌瘗瘊瘥瘘瘕
    21279:瘙馌馎馚-馤馦馧馩-駹瘛瘼瘢瘠癀瘭瘰瘿瘵癃瘾瘳癍癞癔癜癖癫癯翊竦穸穹窀窆窈窕窦窠窬窨窭窳衤衩衲衽衿袂袢裆袷袼裉裢裎裣裥裱褚裼裨裾裰褡褙褓褛褊褴褫褶襁襦襻疋胥皲皴矜耒
    21447:耔耖耜耠耢耥耦耧耩耨耱耋耵聃聆聍聒聩聱覃顸颀颃駺-驙颉颌颍颏颔颚颛颞颟颡颢颥颦虍虔虬虮虿虺虼虻蚨蚍蚋蚬蚝蚧蚣蚪蚓蚩蚶蛄蚵蛎蚰蚺蚱蚯蛉蛏蚴蛩蛱蛲蛭蛳蛐蜓蛞蛴蛟蛘蛑蜃蜇
    21622:蛸蜈蜊蜍蜉蜣蜻蜞蜥蜮蜚蜾蝈蜴蜱蜩蜷蜿螂蜢蝽蝾蝻蝠蝰蝌蝮螋蝓蝣蝼蝤蝙蝥螓螯螨蟒驚-驫驲骃骉骍骎骔骕骙骦骩-骯骲-骵骹骻骽骾骿髃髄髆-髊髍-髐髒體-髗髙-髞髠髢-髥
    21730:髧-髪髬髮髰-髸髺髼-鬂鬄鬅鬆蟆螈螅螭螗螃螫蟥螬螵螳蟋蟓螽蟑蟀蟊蟛蟪蟠蟮蠖蠓蟾蠊蠛蠡蠹蠼缶罂罄罅舐竺竽笈笃笄笕笊笫笏筇笸笪笙笮笱笠笥笤笳笾笞筘筚筅筵筌筝筠筮筻筢筲筱
    21823:箐箦箧箸箬箝箨箅箪箜箢箫箴篑篁篌篝篚篥篦篪簌篾篼簏簖簋鬇鬉-鬎鬐鬑鬒鬔-鬞鬠鬡鬢鬤-鬮鬰鬱鬳-鬺鬽-魀魆魊魋魌魎魐魒魓魕-魻簟簪簦簸籁籀臾舁舂舄臬衄舡舢舣舭舯舨舫舸
    21966:舻舳舴舾艄艉艋艏艚艟艨衾袅袈裘裟襞羝羟羧羯羰羲籼敉粑粝粜粞粢粲粼粽糁糇糌糍糈糅糗糨艮暨羿翎翕翥翡翦翩翮翳糸絷綦綮繇纛麸麴赳趄趔趑趱赧赭豇豉酊酐酎酏酤魼-鯛酢酡酰酩酯
    22141:酽酾酲酴酹醌醅醐醍醑醢醣醪醭醮醯醵醴醺豕鹾趸跫踅蹙蹩趵趿趼趺跄跖跗跚跞跎跏跛跆跬跷跸跣跹跻跤踉跽踔踝踟踬踮踣踯踺蹀踹踵踽踱蹉蹁蹂蹑蹒蹊蹰蹶蹼蹯蹴躅躏躔躐躜躞豸貂貊貅
    22223:貘貔斛觖觞觚觜鯜-鰻觥觫觯訾謦靓雩雳雯霆霁霈霏霎霪霭霰霾龀龃龅-龊龌黾鼋鼍隹隼隽雎雒瞿雠銎銮鋈錾鍪鏊鎏鐾鑫鱿鲂鲅-鲈稣鲋鲎鲐鲑鲒鲔鲕鲚鲛鲞-鲣鲥-鲩鲫鲭鲮鲰-鲷
    22410:鲺-鲽鳄-鳇鳊鳋鰼-鱻鱽鱾鲀鲃鲄鲉鲊鲌鲏鲓鲖-鲙鲝鲪鲬鲯鲹鲾-鳂鳈鳉鳑鳒鳚鳛鳠鳡鳌-鳐鳓鳔鳕鳗鳘鳙鳜鳝鳟鳢靼鞅鞑鞒鞔鞯鞫鞣鞲鞴骱骰骷鹘骶骺骼髁髀髅髂髋髌髑魅魃魇魉魈
    22560:魍魑飨餍餮饕饔髟髡髦髯髫髻髭髹鬈鬏鬓鬟鬣麽麾縻麂麇麈麋麒鏖麝麟黛黜黝黠黟黢黩黧黥黪黯鼢鼬鼯鼹鼷鼽鼾齄鳣-鵂\ue234-\ue291鵃-鶢\ue292-\ue2ef
    22990:鶣-鸂\ue2f0-\ue34d鸃-鸞鸤鸧鸮鸰鸴鸻鸼鹀鹍鹐鹒鹓鹔鹖鹙鹝鹟-鹢鹥鹮鹯鹲鹴-鹽麀麁麃-麆麉麊麌-麑麔-麜麞麠-麥麧-麪\ue34e-\ue3ab麫-麳麵
    23380:麶麷麹麺麼麿-黃黅-黈黊黋黌黐黒黓黕黖黗黙黚點黡黣黤黦黨黫-黮黰-黸黺黽黿-鼊鼌鼏鼑鼒鼔鼕鼖鼘鼚-鼟鼡鼣-鼫鼭鼮鼰鼱\ue3ac-\ue409鼲-鼶鼸鼺鼼鼿-齃
    23573:齅-齏齒-齾龁龂龍-龘龜龝龞龡-龥郎凉秊裏隣\ue40a-\ue467兀-﨏﨑﨓﨔礼﨟蘒﨡﨣﨤﨧﨨﨩⺁\ue816\ue817\ue818⺄㑳㑇⺈⺋龴㖞㘚㘎⺌⺗㥮㤘
    23783:龵㧏㧟㩳㧐龶龷㭎㱮㳠⺧\ue831龸⺪䁖䅟⺮䌷⺳⺶⺷\ue83b䎱䎬⺻䏝䓖䙡䙌龹䜣䜩䝼䞍⻊䥇䥺䥽䦂䦃䦅䦆䦟䦛䦷䦶龺\ue855䲣䲟䲠䲡䱷䲢䴓-䴙䶮龻
    23846:\ue468-\ue4c5"

end ApprovalDesk.Text.Charset
