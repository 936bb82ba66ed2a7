import SeriesCluster.Unicode.CodeSet

namespace SeriesCluster

namespace Unicode

def scriptTable : CodeRuns := .ofText
  (String.join [
    "Zyyy65Latn26Zyyy6Latn26Zyyy47Latn1Zyyy15Latn1Zyyy5Latn23Zyyy1Latn31Zyyy1Latn449Zyyy39Latn5",
    "Zyyy5Bopo2Zyyy20Zinh112Grek4Zyyy1Grek3Zzzz2Grek4Zyyy1Grek1Zzzz4Grek1Zyyy1Grek1Zyyy1Grek3",
    "Zzzz1Grek1Zzzz1Grek20Zzzz1Grek63Copt14Grek16Cyrl133Zinh2Cyrl169Zzzz1Armn38Zzzz2Armn50Zzzz2",
    "Armn3Zzzz1Hebr55Zzzz8Hebr27Zzzz4Hebr6Zzzz11Arab5Zyyy1Arab6Zyyy1Arab14Zyyy1Arab3Zyyy1Arab32",
    "Zyyy1Arab10Zinh11Arab26Zinh1Arab108Zyyy1Arab34Syrc14Zzzz1Syrc60Zzzz2Syrc3Arab48Thaa50Zzzz14",
    "Nkoo59Zzzz2Nkoo3Samr46Zzzz2Samr15Zzzz1Mand28Zzzz2Mand1Zzzz1Syrc11Zzzz5Arab31Zzzz1Arab2Zzzz5",
    "Arab75Zyyy1Arab29Deva81Zinh4Deva15Zyyy2Deva26Beng4Zzzz1Beng8Zzzz2Beng2Zzzz2Beng22Zzzz1Beng7",
    "Zzzz1Beng1Zzzz3Beng4Zzzz2Beng9Zzzz2Beng2Zzzz2Beng4Zzzz8Beng1Zzzz4Beng2Zzzz1Beng5Zzzz2Beng25",
    "Zzzz2Guru3Zzzz1Guru6Zzzz4Guru2Zzzz2Guru22Zzzz1Guru7Zzzz1Guru2Zzzz1Guru2Zzzz1Guru2Zzzz2Guru1",
    "Zzzz1Guru5Zzzz4Guru2Zzzz2Guru3Zzzz3Guru1Zzzz7Guru4Zzzz1Guru1Zzzz7Guru17Zzzz10Gujr3Zzzz1",
    "Gujr9Zzzz1Gujr3Zzzz1Gujr22Zzzz1Gujr7Zzzz1Gujr2Zzzz1Gujr5Zzzz2Gujr10Zzzz1Gujr3Zzzz1Gujr3",
    "Zzzz2Gujr1Zzzz15Gujr4Zzzz2Gujr12Zzzz7Gujr7Zzzz1Orya3Zzzz1Orya8Zzzz2Orya2Zzzz2Orya22Zzzz1",
    "Orya7Zzzz1Orya2Zzzz1Orya5Zzzz2Orya9Zzzz2Orya2Zzzz2Orya3Zzzz7Orya3Zzzz4Orya2Zzzz1Orya5Zzzz2",
    "Orya18Zzzz10Taml2Zzzz1Taml6Zzzz3Taml3Zzzz1Taml4Zzzz3Taml2Zzzz1Taml1Zzzz1Taml2Zzzz3Taml2",
    "Zzzz3Taml3Zzzz3Taml12Zzzz4Taml5Zzzz3Taml3Zzzz1Taml4Zzzz2Taml1Zzzz6Taml1Zzzz14Taml21Zzzz5",
    "Telu13Zzzz1Telu3Zzzz1Telu23Zzzz1Telu16Zzzz2Telu9Zzzz1Telu3Zzzz1Telu4Zzzz7Telu2Zzzz1Telu3",
    "Zzzz2Telu1Zzzz2Telu4Zzzz2Telu10Zzzz7Telu9Knda13Zzzz1Knda3Zzzz1Knda23Zzzz1Knda10Zzzz1Knda5",
    "Zzzz2Knda9Zzzz1Knda3Zzzz1Knda4Zzzz7Knda2Zzzz6Knda2Zzzz1Knda4Zzzz2Knda10Zzzz1Knda3Zzzz12",
    "Mlym13Zzzz1Mlym3Zzzz1Mlym51Zzzz1Mlym3Zzzz1Mlym6Zzzz4Mlym16Zzzz2Mlym26Zzzz1Sinh3Zzzz1Sinh18",
    "Zzzz3Sinh24Zzzz1Sinh9Zzzz1Sinh1Zzzz2Sinh7Zzzz3Sinh1Zzzz4Sinh6Zzzz1Sinh1Zzzz1Sinh8Zzzz6",
    "Sinh10Zzzz2Sinh3Zzzz12Thai58Zzzz4Zyyy1Thai28Zzzz37Laoo2Zzzz1Laoo1Zzzz1Laoo5Zzzz1Laoo24Zzzz1",
    "Laoo1Zzzz1Laoo23Zzzz2Laoo5Zzzz1Laoo1Zzzz1Laoo7Zzzz1Laoo10Zzzz2Laoo4Zzzz32Tibt72Zzzz1Tibt36",
    "Zzzz4Tibt39Zzzz1Tibt36Zzzz1Tibt15Zzzz1Tibt7Zyyy4Tibt2Zzzz37Mymr160Geor38Zzzz1Geor1Zzzz5",
    "Geor1Zzzz2Geor43Zyyy1Geor4Hang256Ethi73Zzzz1Ethi4Zzzz2Ethi7Zzzz1Ethi1Zzzz1Ethi4Zzzz2Ethi41",
    "Zzzz1Ethi4Zzzz2Ethi33Zzzz1Ethi4Zzzz2Ethi7Zzzz1Ethi1Zzzz1Ethi4Zzzz2Ethi15Zzzz1Ethi57Zzzz1",
    "Ethi4Zzzz2Ethi67Zzzz2Ethi32Zzzz3Ethi26Zzzz6Cher86Zzzz2Cher6Zzzz2Cans640Ogam29Zzzz3Runr75",
    "Zyyy3Runr11Zzzz7Tglg22Zzzz9Tglg1Hano21Zyyy2Zzzz9Buhd20Zzzz12Tagb13Zzzz1Tagb3Zzzz1Tagb2",
    "Zzzz12Khmr94Zzzz2Khmr10Zzzz6Khmr10Zzzz6Mong2Zyyy2Mong1Zyyy1Mong20Zzzz6Mong89Zzzz7Mong43",
    "Zzzz5Cans70Zzzz10Limb31Zzzz1Limb12Zzzz4Limb12Zzzz4Limb1Zzzz3Limb12Tale30Zzzz2Tale5Zzzz11",
    "Talu44Zzzz4Talu26Zzzz6Talu11Zzzz3Talu2Khmr32Bugi28Zzzz2Bugi2Lana63Zzzz1Lana29Zzzz2Lana11",
    "Zzzz6Lana10Zzzz6Lana14Zzzz2Zinh31Zzzz49Bali77Zzzz1Bali50Sund64Batk52Zzzz8Batk4Lepc56Zzzz3",
    "Lepc15Zzzz3Lepc3Olck48Cyrl11Zzzz5Geor43Zzzz2Geor3Sund8Zzzz8Zinh3Zyyy1Zinh13Zyyy1Zinh7Zyyy4",
    "Zinh1Zyyy6Zinh1Zyyy3Zinh2Zyyy1Zzzz5Latn38Grek5Cyrl1Latn49Grek5Latn4Grek5Latn13Cyrl1Latn70",
    "Grek1Zinh64Latn256Grek22Zzzz2Grek6Zzzz2Grek38Zzzz2Grek6Zzzz2Grek8Zzzz1Grek1Zzzz1Grek1Zzzz1",
    "Grek1Zzzz1Grek31Zzzz2Grek53Zzzz1Grek15Zzzz1Grek14Zzzz2Grek6Zzzz1Grek19Zzzz2Grek3Zzzz1Grek9",
    "Zzzz1Zyyy12Zinh2Zyyy87Zzzz1Zyyy11Latn1Zzzz2Zyyy11Latn1Zyyy15Zzzz1Latn13Zzzz3Zyyy33Zzzz15",
    "Zinh33Zzzz15Zyyy38Grek1Zyyy3Latn2Zyyy6Latn1Zyyy27Latn1Zyyy17Latn41Zyyy3Zzzz4Zyyy666Zzzz22",
    "Zyyy11Zzzz21Zyyy928Brai256Zyyy628Zzzz2Zyyy32Zzzz1Zyyy105Glag96Latn32Copt116Zzzz5Copt7Geor38",
    "Zzzz1Geor1Zzzz5Geor1Zzzz2Tfng56Zzzz7Tfng2Zzzz14Tfng1Ethi23Zzzz9Ethi7Zzzz1Ethi7Zzzz1Ethi7",
    "Zzzz1Ethi7Zzzz1Ethi7Zzzz1Ethi7Zzzz1Ethi7Zzzz1Ethi7Zzzz1Cyrl32Zyyy94Zzzz34Hani26Zzzz1Hani89",
    "Zzzz12Hani214Zzzz26Zyyy21Hani1Zyyy1Hani1Zyyy25Hani9Zinh4Hang2Zyyy8Hani4Zyyy4Zzzz1Hira86",
    "Zzzz2Zinh2Zyyy2Hira3Zyyy1Kana90Zyyy2Kana3Zzzz5Bopo43Zzzz1Hang94Zzzz1Zyyy16Bopo32Zyyy38Zzzz9",
    "Zyyy1Kana16Hang31Zzzz1Zyyy64Hang31Zyyy81Kana47Zyyy1Kana88Zyyy168Hani6592Zyyy64Hani20992",
    "Yiii1165Zzzz3Yiii55Zzzz9Lisu48Vaii300Zzzz20Cyrl96Bamu88Zzzz8Zyyy34Latn102Zyyy3Latn67Zzzz2",
    "Latn2Zzzz1Latn1Zzzz1Latn8Zzzz21Latn14Sylo45Zzzz3Zyyy10Zzzz6Phag56Zzzz8Saur70Zzzz8Saur12",
    "Zzzz6Deva32Kali46Zyyy1Kali1Rjng36Zzzz11Rjng1Hang29Zzzz3Java78Zzzz1Zyyy1Java10Zzzz4Java2",
    "Mymr31Zzzz1Cham55Zzzz9Cham14Zzzz2Cham10Zzzz2Cham4Mymr32Tavt67Zzzz24Tavt5Mtei23Zzzz10Ethi6",
    "Zzzz2Ethi6Zzzz2Ethi6Zzzz9Ethi7Zzzz1Ethi7Zzzz1Latn43Zyyy1Latn9Grek1Latn4Zyyy2Zzzz4Cher80",
    "Mtei46Zzzz2Mtei10Zzzz6Hang11172Zzzz12Hang23Zzzz4Hang49Zzzz8452Hani366Zzzz2Hani106Zzzz38",
    "Latn7Zzzz12Armn5Zzzz5Hebr26Zzzz1Hebr5Zzzz1Hebr1Zzzz1Hebr2Zzzz1Hebr2Zzzz1Hebr10Arab115Zzzz16",
    "Arab363Zyyy2Arab80Zzzz2Arab54Zzzz7Arab1Zzzz32Arab16Zinh16Zyyy10Zzzz6Zinh14Cyrl2Zyyy35Zzzz1",
    "Zyyy19Zzzz1Zyyy4Zzzz4Arab5Zzzz1Arab135Zzzz2Zyyy1Zzzz1Zyyy32Latn26Zyyy6Latn26Zyyy11Kana10",
    "Zyyy1Kana45Zyyy2Hang31Zzzz3Hang6Zzzz2Hang6Zzzz2Hang6Zzzz2Hang3Zzzz3Zyyy7Zzzz1Zyyy7Zzzz10",
    "Zyyy5Zzzz2Linb12Zzzz1Linb26Zzzz1Linb19Zzzz1Linb2Zzzz1Linb15Zzzz2Linb14Zzzz34Linb123Zzzz5",
    "Zyyy3Zzzz4Zyyy45Zzzz3Zyyy9Grek79Zzzz1Zyyy13Zzzz3Grek1Zzzz47Zyyy45Zinh1Zzzz130Lyci29Zzzz3",
    "Cari49Zzzz15Zinh1Zyyy27Zzzz4Ital36Zzzz9Ital3Goth27Zzzz5Perm43Zzzz5Ugar30Zzzz1Ugar1Xpeo36",
    "Zzzz4Xpeo14Zzzz42Dsrt80Shaw48Osma30Zzzz2Osma10Zzzz6Osge36Zzzz4Osge36Zzzz4Elba40Zzzz8Aghb52",
    "Zzzz11Aghb1Vith11Zzzz1Vith15Zzzz1Vith7Zzzz1Vith2Zzzz1Vith11Zzzz1Vith15Zzzz1Vith7Zzzz1Vith2",
    "Zzzz3Todr52Zzzz12Lina311Zzzz9Lina22Zzzz10Lina8Zzzz24Latn6Zzzz1Latn42Zzzz1Latn9Zzzz69Cprt6",
    "Zzzz2Cprt1Zzzz1Cprt44Zzzz1Cprt2Zzzz3Cprt1Zzzz2Cprt1Armi22Zzzz1Armi9Palm32Nbat31Zzzz8Nbat9",
    "Zzzz48Hatr19Zzzz1Hatr2Zzzz5Hatr5Phnx28Zzzz3Phnx1Lydi26Zzzz5Lydi1Zzzz64Mero32Merc24Zzzz4",
    "Merc20Zzzz2Merc46Khar4Zzzz1Khar2Zzzz5Khar8Zzzz1Khar3Zzzz1Khar29Zzzz2Khar3Zzzz4Khar10Zzzz7",
    "Khar9Zzzz7Sarb32Narb32Zzzz32Mani39Zzzz4Mani12Zzzz9Avst54Zzzz3Avst7Prti22Zzzz2Prti8Phli19",
    "Zzzz5Phli8Phlp18Zzzz7Phlp4Zzzz12Phlp7Zzzz80Orkh73Zzzz55Hung51Zzzz13Hung51Zzzz7Hung6Rohg40",
    "Zzzz8Rohg10Zzzz6Gara38Zzzz3Gara29Zzzz8Gara2Zzzz208Arab31Zzzz1Yezi42Zzzz1Yezi3Zzzz2Yezi2",
    "Zzzz16Arab3Zzzz55Arab4Sogo40Zzzz8Sogd42Zzzz22Ougr26Zzzz38Chrs28Zzzz20Elym23Zzzz9Brah78Zzzz4",
    "Brah36Zzzz9Brah1Kthi67Zzzz10Kthi1Zzzz2Sora25Zzzz7Sora10Zzzz6Cakm53Zzzz1Cakm18Zzzz8Mahj39",
    "Zzzz9Shrd96Zzzz1Sinh20Zzzz11Khoj18Zzzz1Khoj47Zzzz62Mult7Zzzz1Mult1Zzzz1Mult4Zzzz1Mult15",
    "Zzzz1Mult11Zzzz6Sind59Zzzz5Sind10Zzzz6Gran4Zzzz1Gran8Zzzz2Gran2Zzzz2Gran22Zzzz1Gran7Zzzz1",
    "Gran2Zzzz1Gran5Zzzz1Zinh1Gran9Zzzz2Gran2Zzzz2Gran3Zzzz2Gran1Zzzz6Gran1Zzzz5Gran7Zzzz2Gran7",
    "Zzzz3Gran5Zzzz11Tutg10Zzzz1Tutg1Zzzz2Tutg1Zzzz1Tutg38Zzzz1Tutg10Zzzz1Tutg1Zzzz2Tutg1Zzzz1",
    "Tutg4Zzzz1Tutg10Zzzz1Tutg2Zzzz8Tutg2Zzzz29Newa92Zzzz1Newa5Zzzz30Tirh72Zzzz8Tirh10Zzzz166",
    "Sidd54Zzzz2Sidd38Zzzz34Modi69Zzzz11Modi10Zzzz6Mong13Zzzz19Takr58Zzzz6Takr10Zzzz6Mymr20",
    "Zzzz28Ahom27Zzzz2Ahom15Zzzz4Ahom23Zzzz185Dogr60Zzzz100Wara83Zzzz12Wara1Diak7Zzzz2Diak1Zzzz2",
    "Diak8Zzzz1Diak2Zzzz1Diak30Zzzz1Diak2Zzzz2Diak12Zzzz9Diak10Zzzz70Nand8Zzzz2Nand46Zzzz2Nand11",
    "Zzzz27Zanb72Zzzz8Soyo83Zzzz13Cans16Pauc57Zzzz7Deva10Zzzz182Sunu34Zzzz14Sunu10Zzzz6Bhks9",
    "Zzzz1Bhks45Zzzz1Bhks14Zzzz10Bhks29Zzzz3Marc32Zzzz2Marc22Zzzz1Marc14Zzzz73Gonm7Zzzz1Gonm2",
    "Zzzz1Gonm44Zzzz3Gonm1Zzzz1Gonm2Zzzz1Gonm9Zzzz8Gonm10Zzzz6Gong6Zzzz1Gong2Zzzz1Gong37Zzzz1",
    "Gong2Zzzz1Gong6Zzzz7Gong10Zzzz310Maka25Zzzz7Kawi17Zzzz1Kawi41Zzzz3Kawi29Zzzz85Lisu1Zzzz15",
    "Taml50Zzzz13Taml1Xsux922Zzzz102Xsux111Zzzz1Xsux5Zzzz11Xsux196Zzzz2636Cpmn99Zzzz13Egyp1110",
    "Zzzz10Egyp3995Zzzz5Hluw583Zzzz6841Gukh58Zzzz1734Bamu569Zzzz7Mroo31Zzzz1Mroo10Zzzz4Mroo2",
    "Tnsa79Zzzz1Tnsa10Zzzz6Bass30Zzzz2Bass6Zzzz10Hmng70Zzzz10Hmng10Zzzz1Hmng7Zzzz1Hmng21Zzzz5",
    "Hmng19Zzzz432Krai58Zzzz198Medf91Zzzz101Plrd75Zzzz4Plrd57Zzzz7Plrd17Zzzz64Tang1Nshu1Hani2",
    "Kits1Zzzz11Hani2Zzzz14Tang6136Zzzz8Tang768Kits470Zzzz41Kits1Tang9Zzzz8935Kana4Zzzz1Kana7",
    "Zzzz1Kana2Zzzz1Kana1Hira287Kana3Zzzz15Hira1Zzzz29Hira3Zzzz2Kana1Zzzz14Kana4Zzzz8Nshu396",
    "Zzzz2308Dupl107Zzzz5Dupl13Zzzz3Dupl9Zzzz7Dupl10Zzzz2Dupl4Zyyy4Zzzz3932Zyyy250Zzzz6Zyyy436",
    "Zzzz76Zinh46Zzzz2Zinh23Zzzz9Zyyy116Zzzz60Zyyy246Zzzz10Zyyy39Zzzz2Zyyy62Zinh3Zyyy17Zinh8",
    "Zyyy2Zinh7Zyyy30Zinh4Zyyy61Zzzz21Grek70Zzzz122Zyyy20Zzzz12Zyyy20Zzzz12Zyyy87Zzzz9Zyyy25",
    "Zzzz135Zyyy85Zzzz1Zyyy71Zzzz1Zyyy2Zzzz2Zyyy1Zzzz2Zyyy2Zzzz2Zyyy4Zzzz1Zyyy12Zzzz1Zyyy1Zzzz1",
    "Zyyy7Zzzz1Zyyy65Zzzz1Zyyy4Zzzz2Zyyy8Zzzz1Zyyy7Zzzz1Zyyy28Zzzz1Zyyy4Zzzz1Zyyy5Zzzz1Zyyy1",
    "Zzzz3Zyyy7Zzzz1Zyyy340Zzzz2Zyyy292Zzzz2Zyyy50Sgnw652Zzzz15Sgnw5Zzzz1Sgnw15Zzzz1104Latn31",
    "Zzzz6Latn6Zzzz213Glag7Zzzz1Glag17Zzzz2Glag7Zzzz1Glag2Zzzz1Glag5Zzzz5Cyrl62Zzzz33Cyrl1",
    "Zzzz112Hmnp45Zzzz3Hmnp14Zzzz2Hmnp10Zzzz4Hmnp2Zzzz320Toto31Zzzz17Wcho58Zzzz5Wcho1Zzzz464",
    "Nagm42Zzzz214Onao43Zzzz4Onao1Zzzz480Ethi7Zzzz1Ethi4Zzzz1Ethi2Zzzz1Ethi15Zzzz1Mend197Zzzz2",
    "Mend16Zzzz41Adlm76Zzzz4Adlm10Zzzz4Adlm2Zzzz785Zyyy68Zzzz76Zyyy61Zzzz194Arab4Zzzz1Arab27",
    "Zzzz1Arab2Zzzz1Arab1Zzzz2Arab1Zzzz1Arab10Zzzz1Arab4Zzzz1Arab1Zzzz1Arab1Zzzz6Arab1Zzzz4Arab1",
    "Zzzz1Arab1Zzzz1Arab1Zzzz1Arab3Zzzz1Arab2Zzzz1Arab1Zzzz2Arab1Zzzz1Arab1Zzzz1Arab1Zzzz1Arab1",
    "Zzzz1Arab1Zzzz1Arab2Zzzz1Arab1Zzzz2Arab4Zzzz1Arab7Zzzz1Arab4Zzzz1Arab4Zzzz1Arab1Zzzz1Arab10",
    "Zzzz1Arab17Zzzz5Arab3Zzzz1Arab5Zzzz1Arab17Zzzz52Arab2Zzzz270Zyyy44Zzzz4Zyyy100Zzzz12Zyyy15",
    "Zzzz2Zyyy15Zzzz1Zyyy15Zzzz1Zyyy37Zzzz10Zyyy174Zzzz56Zyyy26Hira1Zyyy2Zzzz13Zyyy44Zzzz4Zyyy9",
    "Zzzz7Zyyy2Zzzz14Zyyy6Zzzz154Zyyy984Zzzz4Zyyy17Zzzz3Zyyy13Zzzz3Zyyy119Zzzz4Zyyy95Zzzz6Zyyy12",
    "Zzzz4Zyyy1Zzzz15Zyyy12Zzzz4Zyyy56Zzzz8Zyyy10Zzzz6Zyyy40Zzzz8Zyyy30Zzzz2Zyyy12Zzzz4Zyyy2",
    "Zzzz62Zyyy340Zzzz12Zyyy14Zzzz2Zyyy13Zzzz3Zyyy10Zzzz5Zyyy56Zzzz7Zyyy15Zzzz2Zyyy11Zzzz6Zyyy9",
    "Zzzz7Zyyy147Zzzz1Zyyy102Zzzz1030Hani42720Zzzz32Hani4154Zzzz6Hani222Zzzz2Hani5762Zzzz14",
    "Hani7473Zzzz15Hani622Zzzz2466Hani542Zzzz1506Hani4939Zzzz5Hani4192Zzzz711761Zyyy1Zzzz30",
    "Zyyy96Zzzz128Zinh240Zzzz196112"])

def scriptNames : List (List String) :=
  (String.splitOn
    (String.join [
      "adlm adlam;aghb caucasianalbanian;ahom;arab arabic;armi imperialaramaic;armn armenian;",
      "avst avestan;bali balinese;bamu bamum;bass bassavah;batk batak;beng bengali;bhks ",
      "bhaiksuki;bopo bopomofo;brah brahmi;brai braille;bugi buginese;buhd buhid;cakm chakma;",
      "cans canadianaboriginal;cari carian;cham;cher cherokee;chrs chorasmian;copt coptic qaac;",
      "cpmn cyprominoan;cprt cypriot;cyrl cyrillic;deva devanagari;diak divesakuru;dogr dogra;",
      "dsrt deseret;dupl duployan;egyp egyptianhieroglyphs;elba elbasan;elym elymaic;ethi ",
      "ethiopic;gara garay;geor georgian;glag glagolitic;gong gunjalagondi;gonm masaramgondi;",
      "goth gothic;gran grantha;grek greek;gujr gujarati;gukh gurungkhema;guru gurmukhi;hang ",
      "hangul;hani han;hano hanunoo;hatr hatran;hebr hebrew;hira hiragana;hluw ",
      "anatolianhieroglyphs;hmng pahawhhmong;hmnp nyiakengpuachuehmong;hung oldhungarian;ital ",
      "olditalic;java javanese;kali kayahli;kana katakana;kawi;khar kharoshthi;khmr khmer;khoj ",
      "khojki;kits khitansmallscript;knda kannada;krai kiratrai;kthi kaithi;lana taitham;laoo ",
      "lao;latn latin;lepc lepcha;limb limbu;lina lineara;linb linearb;lisu;lyci lycian;lydi ",
      "lydian;mahj mahajani;maka makasar;mand mandaic;mani manichaean;marc marchen;medf ",
      "medefaidrin;mend mendekikakui;merc meroiticcursive;mero meroitichieroglyphs;mlym ",
      "malayalam;modi;mong mongolian;mroo mro;mtei meeteimayek;mult multani;mymr myanmar;nagm ",
      "nagmundari;nand nandinagari;narb oldnortharabian;nbat nabataean;newa;nkoo nko;nshu nushu;",
      "ogam ogham;olck olchiki;onao olonal;orkh oldturkic;orya oriya;osge osage;osma osmanya;",
      "ougr olduyghur;palm palmyrene;pauc paucinhau;perm oldpermic;phag phagspa;phli ",
      "inscriptionalpahlavi;phlp psalterpahlavi;phnx phoenician;plrd miao;prti ",
      "inscriptionalparthian;rjng rejang;rohg hanifirohingya;runr runic;samr samaritan;sarb ",
      "oldsoutharabian;saur saurashtra;sgnw signwriting;shaw shavian;shrd sharada;sidd siddham;",
      "sind khudawadi;sinh sinhala;sogd sogdian;sogo oldsogdian;sora sorasompeng;soyo soyombo;",
      "sund sundanese;sunu sunuwar;sylo sylotinagri;syrc syriac;tagb tagbanwa;takr takri;tale ",
      "taile;talu newtailue;taml tamil;tang tangut;tavt taiviet;telu telugu;tfng tifinagh;tglg ",
      "tagalog;thaa thaana;thai;tibt tibetan;tirh tirhuta;tnsa tangsa;todr todhri;toto;tutg ",
      "tulutigalari;ugar ugaritic;vaii vai;vith vithkuqi;wara warangciti;wcho wancho;xpeo ",
      "oldpersian;xsux cuneiform;yezi yezidi;yiii yi;zanb zanabazarsquare;zinh inherited qaai;",
      "zyyy common"])
    ";").map (·.splitOn " ")

def scriptNamed? (name : String) : Option String := do
  let names ← scriptNames.find? (·.contains name)
  let code ← names.head?
  some code.capitalize

def script (code : String) : CodeSet := scriptTable.setWhere (· == code)

/-- The code points that are used with other scripts than their own, or that several scripts share:
the codes of the scripts, and the code points. -/
def sharedTable : List (List String × CodeSet) :=
  (String.splitOn
    (String.join [
      "Avst Cari Copt Dupl Elba Geor Glag Gong Goth Grek Hani Latn Lydi Mahj Perm Shaw:b7;Beng ",
      "Cyrl Deva Latn Lisu Thai Toto:2bc;Bopo Latn:2c7 2c9-2cb 2d9;Latn Lisu:2cd;Latn Thai:2d7;",
      "Cher Copt Cyrl Grek Latn Perm Sunu Tale:300;Cher Cyrl Grek Latn Osge Sunu Tale Todr:301;",
      "Cher Cyrl Latn Tfng:302;Glag Latn Sunu Syrc Thai:303;Aghb Cher Copt Cyrl Goth Grek Latn ",
      "Osge Syrc Tfng Todr:304;Copt Elba Glag Goth Kana Latn:305;Cyrl Grek Latn Perm:306;Copt ",
      "Dupl Hebr Latn Perm Syrc Tale Tfng Todr:307;Armn Cyrl Dupl Goth Grek Hebr Latn Perm Syrc ",
      "Tale:308;Latn Tfng:309;Dupl Latn Syrc:30a;Cher Cyrl Latn Osge:30b;Cher Latn Tale:30c;",
      "Latn Sunu:30d 310;Ethi Latn:30e;Cyrl Latn Todr:311;Grek Latn Perm Todr:313;Latn Syrc:320 ",
      "325 32e;Cher Dupl Kana Latn Syrc:323;Cher Dupl Latn Syrc:324;Latn Sunu Syrc:32d;Cher ",
      "Latn Syrc:330;Aghb Cher Goth Latn Sunu Thai:331;Grek:342 345 1dc0-1dc1;Latn Osge:358;",
      "Aghb Latn Todr:35e;Latn:363-36f;Copt Grek:374-375;Cyrl Perm:483;Cyrl Glag:484 487 2e43 ",
      "a66f;Cyrl Latn:485-486;Armn Geor Glag:589;Arab Gara Nkoo Rohg Syrc Thaa Yezi:60c 61b;",
      "Arab Syrc Thaa:61c;Adlm Arab Gara Nkoo Rohg Syrc Thaa Yezi:61f;Adlm Arab Mand Mani Ougr ",
      "Phlp Rohg Sogd Syrc:640;Arab Syrc:64b-655 670;Arab Thaa Yezi:660-669;Arab Rohg:6d4;Beng ",
      "Deva Gran Gujr Guru Knda Latn Mlym Orya Shrd Taml Telu Tirh:951;Beng Deva Gran Gujr Guru ",
      "Knda Latn Mlym Orya Taml Telu Tirh:952;Beng Deva Dogr Gong Gonm Gran Gujr Guru Knda Mahj ",
      "Mlym Nand Onao Orya Sind Sinh Sylo Takr Taml Telu Tirh:964;Beng Deva Dogr Gong Gonm Gran ",
      "Gujr Gukh Guru Knda Limb Mahj Mlym Nand Onao Orya Sind Sinh Sylo Takr Taml Telu Tirh:965;",
      "Deva Dogr Kthi Mahj:966-96f;Beng Cakm Sylo:9e6-9ef;Guru Mult:a66-a6f;Gujr Khoj:ae6-aef;",
      "Gran Taml:be6-bf3 11301 11303 1133b-1133c 11fd0-11fd1 11fd3;Knda Nand Tutg:ce6-cef;Cakm ",
      "Mymr Tale:1040-1049;Geor Glag Latn:10fb;Runr:16eb-16ed;Buhd Hano Tagb Tglg:1735-1736;",
      "Mong Phag:1802-1803 1805;Beng Deva Gran Knda:1cd0 1cd2;Deva:1cd1 1cd4 1cdb 1cde-1cdf ",
      "1ce2-1ce8 1ceb-1cec 1cee-1cf1;Deva Gran Knda:1cd3;Beng Deva:1cd5-1cd6 1cd8 1ce1 1cea ",
      "1ced 1cf5-1cf6;Deva Shrd:1cd7 1cd9 1cdc-1cdd 1ce0;Deva Knda Mlym Orya Taml Telu:1cda;",
      "Deva Nand:1ce9;Beng Deva Gran Knda Mlym Nand Orya Sinh Telu Tirh Tutg:1cf2;Deva ",
      "Gran:1cf3 1cf8-1cf9;Deva Gran Knda Tutg:1cf4;Beng:1cf7;Nand:1cfa;Cyrl Latn Syrc:1df8;",
      "Syrc:1dfa;Latn Mong Phag:202f;Adlm Arab:204f;Cari Geor Glag Hung Lyci Orkh:205a;Cari ",
      "Grek Hung Mero:205d;Deva Gran Latn:20f0;Copt Latn:2e17;Avst Orkh:2e30;Avst Cari Geor ",
      "Hung Kthi Lydi Samr:2e31;Dupl:2e3c 1bca0-1bca3;Adlm Arab Hung:2e41;Hani Tang:2ff0-2fff ",
      "31ef;Bopo Hang Hani Hira Kana Mong Yiii:3001;Bopo Hang Hani Hira Kana Mong Phag ",
      "Yiii:3002;Bopo Hang Hani Hira Kana:3003 3013 301c-301f 3030 3037 fe45-fe46;Hani:3006 ",
      "303e-303f 3190-319f 31c0-31e5 3220-3247 3280-32b0 32c0-32cb 32ff 3358-3370 337b-337f ",
      "33e0-33fe 1d360-1d371 1f250-1f251;Bopo Hang Hani Hira Kana Mong Tibt Yiii:3008-3009;Bopo ",
      "Hang Hani Hira Kana Lisu Mong Tibt Yiii:300a-300b;Bopo Hang Hani Hira Kana ",
      "Yiii:300c-3011 3014-301b 30fb ff61-ff65;Bopo Hani:302a-302d;Hira Kana:3031-3035 ",
      "3099-309c 30a0 30fc ff70 ff9e-ff9f;Hani Hira Kana:303c-303d;Hani Latn:a700-a707;Deva ",
      "Dogr Gujr Guru Khoj Knda Kthi Mahj Mlym Modi Nand Shrd Sind Takr Tirh Tutg:a830-a832;",
      "Deva Dogr Gujr Guru Khoj Knda Kthi Mahj Modi Nand Shrd Sind Takr Tirh Tutg:a833-a835;",
      "Deva Dogr Gujr Guru Khoj Kthi Mahj Modi Sind Takr Tirh:a836-a837 a839;Deva Dogr Gujr ",
      "Guru Khoj Kthi Mahj Modi Shrd Sind Takr Tirh:a838;Beng Deva Tutg:a8f1;Deva Taml:a8f3;",
      "Kali Latn Mymr:a92e;Bugi Java:a9cf;Arab Nkoo:fd3e-fd3f;Arab Thaa:fdf2 fdfd;Cpmn Cprt ",
      "Linb:10100-10101;Cprt Linb:10102 10137-1013f;Cprt Lina Linb:10107-10133;Arab ",
      "Copt:102e0-102fb;Mani Ougr:10af2"])
    ";").map fun entry =>
      match entry.splitOn ":" with
      | [codes, ranges] => (codes.splitOn " ", .ofText ranges)
      | _ => ([], .empty)

def scriptExtension (code : String) : CodeSet :=
  let shared := CodeSet.unionAll (sharedTable.map Prod.snd)
  let used := (sharedTable.filter (·.1.contains code)).map Prod.snd
  .unionAll ((script code).diff shared :: used)

end Unicode

end SeriesCluster
