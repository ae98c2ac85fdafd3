/-
Module: SafeDelete.Text.Script
Purpose: The script of every code point.
Main exports: scriptOf, scriptNames
-/
import SafeDelete.Text.Runs

namespace SafeDelete

/-- The scripts by their four letters, as Unicode 15 assigns them. -/
def scriptRuns : Runs :=
  Runs.ofLines [
    "Zyyy65Latn26Zyyy6Latn26Zyyy47Latn1Zyyy15Latn1Zyyy5Latn23Zyyy1Latn31Zyyy1Latn449Zyyy39Latn5",
    "Zyyy5Bopo2Zyyy20Zinh112Grek4Zyyy1Grek3Zzzz2Grek4Zyyy1Grek1Zzzz4Grek1Zyyy1Grek1Zyyy1Grek3",
    "Zzzz1Grek1Zzzz1Grek20Zzzz1Grek63Copt14Grek16Cyrl133Zinh2Cyrl169Zzzz1Armn38Zzzz2Armn50Zzzz2",
    "Armn3Zzzz1Hebr55Zzzz8Hebr27Zzzz4Hebr6Zzzz11Arab5Zyyy1Arab6Zyyy1Arab14Zyyy1Arab3Zyyy1Arab32",
    "Zyyy1Arab10Zinh11Arab26Zinh1Arab108Zyyy1Arab34Syrc14Zzzz1Syrc60Zzzz2Syrc3Arab48Thaa50Zzzz14",
    "Nkoo59Zzzz2Nkoo3Samr46Zzzz2Samr15Zzzz1Mand28Zzzz2Mand1Zzzz1Syrc11Zzzz5Arab31Zzzz1Arab2Zzzz6",
    "Arab74Zyyy1Arab29Deva81Zinh4Deva15Zyyy2Deva26Beng4Zzzz1Beng8Zzzz2Beng2Zzzz2Beng22Zzzz1Beng7",
    "Zzzz1Beng1Zzzz3Beng4Zzzz2Beng9Zzzz2Beng2Zzzz2Beng4Zzzz8Beng1Zzzz4Beng2Zzzz1Beng5Zzzz2Beng25",
    "Zzzz2Guru3Zzzz1Guru6Zzzz4Guru2Zzzz2Guru22Zzzz1Guru7Zzzz1Guru2Zzzz1Guru2Zzzz1Guru2Zzzz2Guru1",
    "Zzzz1Guru5Zzzz4Guru2Zzzz2Guru3Zzzz3Guru1Zzzz7Guru4Zzzz1Guru1Zzzz7Guru17Zzzz10Gujr3Zzzz1Gujr9",
    "Zzzz1Gujr3Zzzz1Gujr22Zzzz1Gujr7Zzzz1Gujr2Zzzz1Gujr5Zzzz2Gujr10Zzzz1Gujr3Zzzz1Gujr3Zzzz2Gujr1",
    "Zzzz15Gujr4Zzzz2Gujr12Zzzz7Gujr7Zzzz1Orya3Zzzz1Orya8Zzzz2Orya2Zzzz2Orya22Zzzz1Orya7Zzzz1",
    "Orya2Zzzz1Orya5Zzzz2Orya9Zzzz2Orya2Zzzz2Orya3Zzzz7Orya3Zzzz4Orya2Zzzz1Orya5Zzzz2Orya18Zzzz10",
    "Taml2Zzzz1Taml6Zzzz3Taml3Zzzz1Taml4Zzzz3Taml2Zzzz1Taml1Zzzz1Taml2Zzzz3Taml2Zzzz3Taml3Zzzz3",
    "Taml12Zzzz4Taml5Zzzz3Taml3Zzzz1Taml4Zzzz2Taml1Zzzz6Taml1Zzzz14Taml21Zzzz5Telu13Zzzz1Telu3",
    "Zzzz1Telu23Zzzz1Telu16Zzzz2Telu9Zzzz1Telu3Zzzz1Telu4Zzzz7Telu2Zzzz1Telu3Zzzz2Telu1Zzzz2Telu4",
    "Zzzz2Telu10Zzzz7Telu9Knda13Zzzz1Knda3Zzzz1Knda23Zzzz1Knda10Zzzz1Knda5Zzzz2Knda9Zzzz1Knda3",
    "Zzzz1Knda4Zzzz7Knda2Zzzz6Knda2Zzzz1Knda4Zzzz2Knda10Zzzz1Knda3Zzzz12Mlym13Zzzz1Mlym3Zzzz1",
    "Mlym51Zzzz1Mlym3Zzzz1Mlym6Zzzz4Mlym16Zzzz2Mlym26Zzzz1Sinh3Zzzz1Sinh18Zzzz3Sinh24Zzzz1Sinh9",
    "Zzzz1Sinh1Zzzz2Sinh7Zzzz3Sinh1Zzzz4Sinh6Zzzz1Sinh1Zzzz1Sinh8Zzzz6Sinh10Zzzz2Sinh3Zzzz12",
    "Thai58Zzzz4Zyyy1Thai28Zzzz37Laoo2Zzzz1Laoo1Zzzz1Laoo5Zzzz1Laoo24Zzzz1Laoo1Zzzz1Laoo23Zzzz2",
    "Laoo5Zzzz1Laoo1Zzzz1Laoo7Zzzz1Laoo10Zzzz2Laoo4Zzzz32Tibt72Zzzz1Tibt36Zzzz4Tibt39Zzzz1Tibt36",
    "Zzzz1Tibt15Zzzz1Tibt7Zyyy4Tibt2Zzzz37Mymr160Geor38Zzzz1Geor1Zzzz5Geor1Zzzz2Geor43Zyyy1Geor4",
    "Hang256Ethi73Zzzz1Ethi4Zzzz2Ethi7Zzzz1Ethi1Zzzz1Ethi4Zzzz2Ethi41Zzzz1Ethi4Zzzz2Ethi33Zzzz1",
    "Ethi4Zzzz2Ethi7Zzzz1Ethi1Zzzz1Ethi4Zzzz2Ethi15Zzzz1Ethi57Zzzz1Ethi4Zzzz2Ethi67Zzzz2Ethi32",
    "Zzzz3Ethi26Zzzz6Cher86Zzzz2Cher6Zzzz2Cans640Ogam29Zzzz3Runr75Zyyy3Runr11Zzzz7Tglg22Zzzz9",
    "Tglg1Hano21Zyyy2Zzzz9Buhd20Zzzz12Tagb13Zzzz1Tagb3Zzzz1Tagb2Zzzz12Khmr94Zzzz2Khmr10Zzzz6",
    "Khmr10Zzzz6Mong2Zyyy2Mong1Zyyy1Mong20Zzzz6Mong89Zzzz7Mong43Zzzz5Cans70Zzzz10Limb31Zzzz1",
    "Limb12Zzzz4Limb12Zzzz4Limb1Zzzz3Limb12Tale30Zzzz2Tale5Zzzz11Talu44Zzzz4Talu26Zzzz6Talu11",
    "Zzzz3Talu2Khmr32Bugi28Zzzz2Bugi2Lana63Zzzz1Lana29Zzzz2Lana11Zzzz6Lana10Zzzz6Lana14Zzzz2",
    "Zinh31Zzzz49Bali77Zzzz3Bali47Zzzz1Sund64Batk52Zzzz8Batk4Lepc56Zzzz3Lepc15Zzzz3Lepc3Olck48",
    "Cyrl9Zzzz7Geor43Zzzz2Geor3Sund8Zzzz8Zinh3Zyyy1Zinh13Zyyy1Zinh7Zyyy4Zinh1Zyyy6Zinh1Zyyy3Zinh2",
    "Zyyy1Zzzz5Latn38Grek5Cyrl1Latn49Grek5Latn4Grek5Latn13Cyrl1Latn70Grek1Zinh64Latn256Grek22",
    "Zzzz2Grek6Zzzz2Grek38Zzzz2Grek6Zzzz2Grek8Zzzz1Grek1Zzzz1Grek1Zzzz1Grek1Zzzz1Grek31Zzzz2",
    "Grek53Zzzz1Grek15Zzzz1Grek14Zzzz2Grek6Zzzz1Grek19Zzzz2Grek3Zzzz1Grek9Zzzz1Zyyy12Zinh2Zyyy87",
    "Zzzz1Zyyy11Latn1Zzzz2Zyyy11Latn1Zyyy15Zzzz1Latn13Zzzz3Zyyy33Zzzz15Zinh33Zzzz15Zyyy38Grek1",
    "Zyyy3Latn2Zyyy6Latn1Zyyy27Latn1Zyyy17Latn41Zyyy3Zzzz4Zyyy663Zzzz25Zyyy11Zzzz21Zyyy928Brai256",
    "Zyyy628Zzzz2Zyyy32Zzzz1Zyyy105Glag96Latn32Copt116Zzzz5Copt7Geor38Zzzz1Geor1Zzzz5Geor1Zzzz2",
    "Tfng56Zzzz7Tfng2Zzzz14Tfng1Ethi23Zzzz9Ethi7Zzzz1Ethi7Zzzz1Ethi7Zzzz1Ethi7Zzzz1Ethi7Zzzz1",
    "Ethi7Zzzz1Ethi7Zzzz1Ethi7Zzzz1Cyrl32Zyyy94Zzzz34Hani26Zzzz1Hani89Zzzz12Hani214Zzzz26Zyyy12",
    "Zzzz4Zyyy5Hani1Zyyy1Hani1Zyyy25Hani9Zinh4Hang2Zyyy8Hani4Zyyy4Zzzz1Hira86Zzzz2Zinh2Zyyy2Hira3",
    "Zyyy1Kana90Zyyy2Kana3Zzzz5Bopo43Zzzz1Hang94Zzzz1Zyyy16Bopo32Zyyy36Zzzz12Kana16Hang31Zzzz1",
    "Zyyy64Hang31Zyyy81Kana47Zyyy1Kana88Zyyy168Hani6592Zyyy64Hani20992Yiii1165Zzzz3Yiii55Zzzz9",
    "Lisu48Vaii300Zzzz20Cyrl96Bamu88Zzzz8Zyyy34Latn102Zyyy3Latn64Zzzz5Latn2Zzzz1Latn1Zzzz1Latn5",
    "Zzzz24Latn14Sylo45Zzzz3Zyyy10Zzzz6Phag56Zzzz8Saur70Zzzz8Saur12Zzzz6Deva32Kali46Zyyy1Kali1",
    "Rjng36Zzzz11Rjng1Hang29Zzzz3Java78Zzzz1Zyyy1Java10Zzzz4Java2Mymr31Zzzz1Cham55Zzzz9Cham14",
    "Zzzz2Cham10Zzzz2Cham4Mymr32Tavt67Zzzz24Tavt5Mtei23Zzzz10Ethi6Zzzz2Ethi6Zzzz2Ethi6Zzzz9Ethi7",
    "Zzzz1Ethi7Zzzz1Latn43Zyyy1Latn9Grek1Latn4Zyyy2Zzzz4Cher80Mtei46Zzzz2Mtei10Zzzz6Hang11172",
    "Zzzz12Hang23Zzzz4Hang49Zzzz8452Hani366Zzzz2Hani106Zzzz38Latn7Zzzz12Armn5Zzzz5Hebr26Zzzz1",
    "Hebr5Zzzz1Hebr1Zzzz1Hebr2Zzzz1Hebr2Zzzz1Hebr10Arab115Zzzz16Arab363Zyyy2Arab80Zzzz2Arab54",
    "Zzzz7Arab1Zzzz32Arab16Zinh16Zyyy10Zzzz6Zinh14Cyrl2Zyyy35Zzzz1Zyyy19Zzzz1Zyyy4Zzzz4Arab5Zzzz1",
    "Arab135Zzzz2Zyyy1Zzzz1Zyyy32Latn26Zyyy6Latn26Zyyy11Kana10Zyyy1Kana45Zyyy2Hang31Zzzz3Hang6",
    "Zzzz2Hang6Zzzz2Hang6Zzzz2Hang3Zzzz3Zyyy7Zzzz1Zyyy7Zzzz10Zyyy5Zzzz2Linb12Zzzz1Linb26Zzzz1",
    "Linb19Zzzz1Linb2Zzzz1Linb15Zzzz2Linb14Zzzz34Linb123Zzzz5Zyyy3Zzzz4Zyyy45Zzzz3Zyyy9Grek79",
    "Zzzz1Zyyy13Zzzz3Grek1Zzzz47Zyyy45Zinh1Zzzz130Lyci29Zzzz3Cari49Zzzz15Zinh1Zyyy27Zzzz4Ital36",
    "Zzzz9Ital3Goth27Zzzz5Perm43Zzzz5Ugar30Zzzz1Ugar1Xpeo36Zzzz4Xpeo14Zzzz42Dsrt80Shaw48Osma30",
    "Zzzz2Osma10Zzzz6Osge36Zzzz4Osge36Zzzz4Elba40Zzzz8Aghb52Zzzz11Aghb1Vith11Zzzz1Vith15Zzzz1",
    "Vith7Zzzz1Vith2Zzzz1Vith11Zzzz1Vith15Zzzz1Vith7Zzzz1Vith2Zzzz67Lina311Zzzz9Lina22Zzzz10Lina8",
    "Zzzz24Latn6Zzzz1Latn42Zzzz1Latn9Zzzz69Cprt6Zzzz2Cprt1Zzzz1Cprt44Zzzz1Cprt2Zzzz3Cprt1Zzzz2",
    "Cprt1Armi22Zzzz1Armi9Palm32Nbat31Zzzz8Nbat9Zzzz48Hatr19Zzzz1Hatr2Zzzz5Hatr5Phnx28Zzzz3Phnx1",
    "Lydi26Zzzz5Lydi1Zzzz64Mero32Merc24Zzzz4Merc20Zzzz2Merc46Khar4Zzzz1Khar2Zzzz5Khar8Zzzz1Khar3",
    "Zzzz1Khar29Zzzz2Khar3Zzzz4Khar10Zzzz7Khar9Zzzz7Sarb32Narb32Zzzz32Mani39Zzzz4Mani12Zzzz9",
    "Avst54Zzzz3Avst7Prti22Zzzz2Prti8Phli19Zzzz5Phli8Phlp18Zzzz7Phlp4Zzzz12Phlp7Zzzz80Orkh73",
    "Zzzz55Hung51Zzzz13Hung51Zzzz7Hung6Rohg40Zzzz8Rohg10Zzzz294Arab31Zzzz1Yezi42Zzzz1Yezi3Zzzz2",
    "Yezi2Zzzz75Arab3Sogo40Zzzz8Sogd42Zzzz22Ougr26Zzzz38Chrs28Zzzz20Elym23Zzzz9Brah78Zzzz4Brah36",
    "Zzzz9Brah1Kthi67Zzzz10Kthi1Zzzz2Sora25Zzzz7Sora10Zzzz6Cakm53Zzzz1Cakm18Zzzz8Mahj39Zzzz9",
    "Shrd96Zzzz1Sinh20Zzzz11Khoj18Zzzz1Khoj47Zzzz62Mult7Zzzz1Mult1Zzzz1Mult4Zzzz1Mult15Zzzz1",
    "Mult11Zzzz6Sind59Zzzz5Sind10Zzzz6Gran4Zzzz1Gran8Zzzz2Gran2Zzzz2Gran22Zzzz1Gran7Zzzz1Gran2",
    "Zzzz1Gran5Zzzz1Zinh1Gran9Zzzz2Gran2Zzzz2Gran3Zzzz2Gran1Zzzz6Gran1Zzzz5Gran7Zzzz2Gran7Zzzz3",
    "Gran5Zzzz139Newa92Zzzz1Newa5Zzzz30Tirh72Zzzz8Tirh10Zzzz166Sidd54Zzzz2Sidd38Zzzz34Modi69",
    "Zzzz11Modi10Zzzz6Mong13Zzzz19Takr58Zzzz6Takr10Zzzz54Ahom27Zzzz2Ahom15Zzzz4Ahom23Zzzz185",
    "Dogr60Zzzz100Wara83Zzzz12Wara1Diak7Zzzz2Diak1Zzzz2Diak8Zzzz1Diak2Zzzz1Diak30Zzzz1Diak2Zzzz2",
    "Diak12Zzzz9Diak10Zzzz70Nand8Zzzz2Nand46Zzzz2Nand11Zzzz27Zanb72Zzzz8Soyo83Zzzz13Cans16Pauc57",
    "Zzzz7Deva10Zzzz246Bhks9Zzzz1Bhks45Zzzz1Bhks14Zzzz10Bhks29Zzzz3Marc32Zzzz2Marc22Zzzz1Marc14",
    "Zzzz73Gonm7Zzzz1Gonm2Zzzz1Gonm44Zzzz3Gonm1Zzzz1Gonm2Zzzz1Gonm9Zzzz8Gonm10Zzzz6Gong6Zzzz1",
    "Gong2Zzzz1Gong37Zzzz1Gong2Zzzz1Gong6Zzzz7Gong10Zzzz310Maka25Zzzz7Kawi17Zzzz1Kawi41Zzzz3",
    "Kawi28Zzzz86Lisu1Zzzz15Taml50Zzzz13Taml1Xsux922Zzzz102Xsux111Zzzz1Xsux5Zzzz11Xsux196Zzzz2636",
    "Cpmn99Zzzz13Egyp1110Zzzz4010Hluw583Zzzz8633Bamu569Zzzz7Mroo31Zzzz1Mroo10Zzzz4Mroo2Tnsa79",
    "Zzzz1Tnsa10Zzzz6Bass30Zzzz2Bass6Zzzz10Hmng70Zzzz10Hmng10Zzzz1Hmng7Zzzz1Hmng21Zzzz5Hmng19",
    "Zzzz688Medf91Zzzz101Plrd75Zzzz4Plrd57Zzzz7Plrd17Zzzz64Tang1Nshu1Hani2Kits1Zzzz11Hani2Zzzz14",
    "Tang6136Zzzz8Tang768Kits470Zzzz42Tang9Zzzz8935Kana4Zzzz1Kana7Zzzz1Kana2Zzzz1Kana1Hira287",
    "Kana3Zzzz15Hira1Zzzz29Hira3Zzzz2Kana1Zzzz14Kana4Zzzz8Nshu396Zzzz2308Dupl107Zzzz5Dupl13Zzzz3",
    "Dupl9Zzzz7Dupl10Zzzz2Dupl4Zyyy4Zzzz4700Zinh46Zzzz2Zinh23Zzzz9Zyyy116Zzzz60Zyyy246Zzzz10",
    "Zyyy39Zzzz2Zyyy62Zinh3Zyyy17Zinh8Zyyy2Zinh7Zyyy30Zinh4Zyyy61Zzzz21Grek70Zzzz122Zyyy20Zzzz12",
    "Zyyy20Zzzz12Zyyy87Zzzz9Zyyy25Zzzz135Zyyy85Zzzz1Zyyy71Zzzz1Zyyy2Zzzz2Zyyy1Zzzz2Zyyy2Zzzz2",
    "Zyyy4Zzzz1Zyyy12Zzzz1Zyyy1Zzzz1Zyyy7Zzzz1Zyyy65Zzzz1Zyyy4Zzzz2Zyyy8Zzzz1Zyyy7Zzzz1Zyyy28",
    "Zzzz1Zyyy4Zzzz1Zyyy5Zzzz1Zyyy1Zzzz3Zyyy7Zzzz1Zyyy340Zzzz2Zyyy292Zzzz2Zyyy50Sgnw652Zzzz15",
    "Sgnw5Zzzz1Sgnw15Zzzz1104Latn31Zzzz6Latn6Zzzz213Glag7Zzzz1Glag17Zzzz2Glag7Zzzz1Glag2Zzzz1",
    "Glag5Zzzz5Cyrl62Zzzz33Cyrl1Zzzz112Hmnp45Zzzz3Hmnp14Zzzz2Hmnp10Zzzz4Hmnp2Zzzz320Toto31Zzzz17",
    "Wcho58Zzzz5Wcho1Zzzz464Nagm42Zzzz742Ethi7Zzzz1Ethi4Zzzz1Ethi2Zzzz1Ethi15Zzzz1Mend197Zzzz2",
    "Mend16Zzzz41Adlm76Zzzz4Adlm10Zzzz4Adlm2Zzzz785Zyyy68Zzzz76Zyyy61Zzzz194Arab4Zzzz1Arab27Zzzz1",
    "Arab2Zzzz1Arab1Zzzz2Arab1Zzzz1Arab10Zzzz1Arab4Zzzz1Arab1Zzzz1Arab1Zzzz6Arab1Zzzz4Arab1Zzzz1",
    "Arab1Zzzz1Arab1Zzzz1Arab3Zzzz1Arab2Zzzz1Arab1Zzzz2Arab1Zzzz1Arab1Zzzz1Arab1Zzzz1Arab1Zzzz1",
    "Arab1Zzzz1Arab2Zzzz1Arab1Zzzz2Arab4Zzzz1Arab7Zzzz1Arab4Zzzz1Arab4Zzzz1Arab1Zzzz1Arab10Zzzz1",
    "Arab17Zzzz5Arab3Zzzz1Arab5Zzzz1Arab17Zzzz52Arab2Zzzz270Zyyy44Zzzz4Zyyy100Zzzz12Zyyy15Zzzz2",
    "Zyyy15Zzzz1Zyyy15Zzzz1Zyyy37Zzzz10Zyyy174Zzzz56Zyyy26Hira1Zyyy2Zzzz13Zyyy44Zzzz4Zyyy9Zzzz7",
    "Zyyy2Zzzz14Zyyy6Zzzz154Zyyy984Zzzz4Zyyy17Zzzz3Zyyy13Zzzz3Zyyy119Zzzz4Zyyy95Zzzz6Zyyy12Zzzz4",
    "Zyyy1Zzzz15Zyyy12Zzzz4Zyyy56Zzzz8Zyyy10Zzzz6Zyyy40Zzzz8Zyyy30Zzzz2Zyyy2Zzzz78Zyyy340Zzzz12",
    "Zyyy14Zzzz2Zyyy13Zzzz3Zyyy9Zzzz7Zyyy46Zzzz1Zyyy7Zzzz8Zyyy14Zzzz4Zyyy9Zzzz7Zyyy9Zzzz7Zyyy147",
    "Zzzz1Zyyy55Zzzz37Zyyy10Zzzz1030Hani42720Zzzz32Hani4154Zzzz6Hani222Zzzz2Hani5762Zzzz14",
    "Hani7473Zzzz3103Hani542Zzzz1506Hani4939Zzzz5Hani4192Zzzz711761Zyyy1Zzzz30Zyyy96Zzzz128",
    "Zinh240Zzzz196112"]

/-- The script of a character. -/
def scriptOf (c : Char) : Text :=
  scriptRuns.markAt c.toNat

/-- Scripts by their names. -/
def scriptNames : List (String × String) := [
    ("ADLM", "Adlm"), ("ADLAM", "Adlm"), ("AGHB", "Aghb"), ("CAUCASIANALBANIAN", "Aghb"),
    ("AHOM", "Ahom"), ("ARAB", "Arab"), ("ARABIC", "Arab"), ("ARMI", "Armi"),
    ("IMPERIALARAMAIC", "Armi"), ("ARMN", "Armn"), ("ARMENIAN", "Armn"), ("AVST", "Avst"),
    ("AVESTAN", "Avst"), ("BALI", "Bali"), ("BALINESE", "Bali"), ("BAMU", "Bamu"),
    ("BAMUM", "Bamu"), ("BASS", "Bass"), ("BASSAVAH", "Bass"), ("BATK", "Batk"),
    ("BATAK", "Batk"), ("BENG", "Beng"), ("BENGALI", "Beng"), ("BHKS", "Bhks"),
    ("BHAIKSUKI", "Bhks"), ("BOPO", "Bopo"), ("BOPOMOFO", "Bopo"), ("BRAH", "Brah"),
    ("BRAHMI", "Brah"), ("BRAI", "Brai"), ("BRAILLE", "Brai"), ("BUGI", "Bugi"),
    ("BUGINESE", "Bugi"), ("BUHD", "Buhd"), ("BUHID", "Buhd"), ("CAKM", "Cakm"),
    ("CHAKMA", "Cakm"), ("CANS", "Cans"), ("CANADIANABORIGINAL", "Cans"), ("CARI", "Cari"),
    ("CARIAN", "Cari"), ("CHAM", "Cham"), ("CHER", "Cher"), ("CHEROKEE", "Cher"),
    ("CHRS", "Chrs"), ("CHORASMIAN", "Chrs"), ("COPT", "Copt"), ("COPTIC", "Copt"),
    ("QAAC", "Copt"), ("CPMN", "Cpmn"), ("CYPROMINOAN", "Cpmn"), ("CPRT", "Cprt"),
    ("CYPRIOT", "Cprt"), ("CYRL", "Cyrl"), ("CYRILLIC", "Cyrl"), ("DEVA", "Deva"),
    ("DEVANAGARI", "Deva"), ("DIAK", "Diak"), ("DIVESAKURU", "Diak"), ("DOGR", "Dogr"),
    ("DOGRA", "Dogr"), ("DSRT", "Dsrt"), ("DESERET", "Dsrt"), ("DUPL", "Dupl"),
    ("DUPLOYAN", "Dupl"), ("EGYP", "Egyp"), ("EGYPTIANHIEROGLYPHS", "Egyp"), ("ELBA", "Elba"),
    ("ELBASAN", "Elba"), ("ELYM", "Elym"), ("ELYMAIC", "Elym"), ("ETHI", "Ethi"),
    ("ETHIOPIC", "Ethi"), ("GEOR", "Geor"), ("GEORGIAN", "Geor"), ("GLAG", "Glag"),
    ("GLAGOLITIC", "Glag"), ("GONG", "Gong"), ("GUNJALAGONDI", "Gong"), ("GONM", "Gonm"),
    ("MASARAMGONDI", "Gonm"), ("GOTH", "Goth"), ("GOTHIC", "Goth"), ("GRAN", "Gran"),
    ("GRANTHA", "Gran"), ("GREK", "Grek"), ("GREEK", "Grek"), ("GUJR", "Gujr"),
    ("GUJARATI", "Gujr"), ("GURU", "Guru"), ("GURMUKHI", "Guru"), ("HANG", "Hang"),
    ("HANGUL", "Hang"), ("HANI", "Hani"), ("HAN", "Hani"), ("HANO", "Hano"), ("HANUNOO", "Hano"),
    ("HATR", "Hatr"), ("HATRAN", "Hatr"), ("HEBR", "Hebr"), ("HEBREW", "Hebr"), ("HIRA", "Hira"),
    ("HIRAGANA", "Hira"), ("HLUW", "Hluw"), ("ANATOLIANHIEROGLYPHS", "Hluw"), ("HMNG", "Hmng"),
    ("PAHAWHHMONG", "Hmng"), ("HMNP", "Hmnp"), ("NYIAKENGPUACHUEHMONG", "Hmnp"), ("HUNG", "Hung"),
    ("OLDHUNGARIAN", "Hung"), ("ITAL", "Ital"), ("OLDITALIC", "Ital"), ("JAVA", "Java"),
    ("JAVANESE", "Java"), ("KALI", "Kali"), ("KAYAHLI", "Kali"), ("KANA", "Kana"),
    ("KATAKANA", "Kana"), ("KAWI", "Kawi"), ("KHAR", "Khar"), ("KHAROSHTHI", "Khar"),
    ("KHMR", "Khmr"), ("KHMER", "Khmr"), ("KHOJ", "Khoj"), ("KHOJKI", "Khoj"), ("KITS", "Kits"),
    ("KHITANSMALLSCRIPT", "Kits"), ("KNDA", "Knda"), ("KANNADA", "Knda"), ("KTHI", "Kthi"),
    ("KAITHI", "Kthi"), ("LANA", "Lana"), ("TAITHAM", "Lana"), ("LAOO", "Laoo"), ("LAO", "Laoo"),
    ("LATN", "Latn"), ("LATIN", "Latn"), ("LEPC", "Lepc"), ("LEPCHA", "Lepc"), ("LIMB", "Limb"),
    ("LIMBU", "Limb"), ("LINA", "Lina"), ("LINEARA", "Lina"), ("LINB", "Linb"),
    ("LINEARB", "Linb"), ("LISU", "Lisu"), ("LYCI", "Lyci"), ("LYCIAN", "Lyci"), ("LYDI", "Lydi"),
    ("LYDIAN", "Lydi"), ("MAHJ", "Mahj"), ("MAHAJANI", "Mahj"), ("MAKA", "Maka"),
    ("MAKASAR", "Maka"), ("MAND", "Mand"), ("MANDAIC", "Mand"), ("MANI", "Mani"),
    ("MANICHAEAN", "Mani"), ("MARC", "Marc"), ("MARCHEN", "Marc"), ("MEDF", "Medf"),
    ("MEDEFAIDRIN", "Medf"), ("MEND", "Mend"), ("MENDEKIKAKUI", "Mend"), ("MERC", "Merc"),
    ("MEROITICCURSIVE", "Merc"), ("MERO", "Mero"), ("MEROITICHIEROGLYPHS", "Mero"),
    ("MLYM", "Mlym"), ("MALAYALAM", "Mlym"), ("MODI", "Modi"), ("MONG", "Mong"),
    ("MONGOLIAN", "Mong"), ("MROO", "Mroo"), ("MRO", "Mroo"), ("MTEI", "Mtei"),
    ("MEETEIMAYEK", "Mtei"), ("MULT", "Mult"), ("MULTANI", "Mult"), ("MYMR", "Mymr"),
    ("MYANMAR", "Mymr"), ("NAGM", "Nagm"), ("NAGMUNDARI", "Nagm"), ("NAND", "Nand"),
    ("NANDINAGARI", "Nand"), ("NARB", "Narb"), ("OLDNORTHARABIAN", "Narb"), ("NBAT", "Nbat"),
    ("NABATAEAN", "Nbat"), ("NEWA", "Newa"), ("NKOO", "Nkoo"), ("NKO", "Nkoo"), ("NSHU", "Nshu"),
    ("NUSHU", "Nshu"), ("OGAM", "Ogam"), ("OGHAM", "Ogam"), ("OLCK", "Olck"), ("OLCHIKI", "Olck"),
    ("ORKH", "Orkh"), ("OLDTURKIC", "Orkh"), ("ORYA", "Orya"), ("ORIYA", "Orya"),
    ("OSGE", "Osge"), ("OSAGE", "Osge"), ("OSMA", "Osma"), ("OSMANYA", "Osma"), ("OUGR", "Ougr"),
    ("OLDUYGHUR", "Ougr"), ("PALM", "Palm"), ("PALMYRENE", "Palm"), ("PAUC", "Pauc"),
    ("PAUCINHAU", "Pauc"), ("PERM", "Perm"), ("OLDPERMIC", "Perm"), ("PHAG", "Phag"),
    ("PHAGSPA", "Phag"), ("PHLI", "Phli"), ("INSCRIPTIONALPAHLAVI", "Phli"), ("PHLP", "Phlp"),
    ("PSALTERPAHLAVI", "Phlp"), ("PHNX", "Phnx"), ("PHOENICIAN", "Phnx"), ("PLRD", "Plrd"),
    ("MIAO", "Plrd"), ("PRTI", "Prti"), ("INSCRIPTIONALPARTHIAN", "Prti"), ("RJNG", "Rjng"),
    ("REJANG", "Rjng"), ("ROHG", "Rohg"), ("HANIFIROHINGYA", "Rohg"), ("RUNR", "Runr"),
    ("RUNIC", "Runr"), ("SAMR", "Samr"), ("SAMARITAN", "Samr"), ("SARB", "Sarb"),
    ("OLDSOUTHARABIAN", "Sarb"), ("SAUR", "Saur"), ("SAURASHTRA", "Saur"), ("SGNW", "Sgnw"),
    ("SIGNWRITING", "Sgnw"), ("SHAW", "Shaw"), ("SHAVIAN", "Shaw"), ("SHRD", "Shrd"),
    ("SHARADA", "Shrd"), ("SIDD", "Sidd"), ("SIDDHAM", "Sidd"), ("SIND", "Sind"),
    ("KHUDAWADI", "Sind"), ("SINH", "Sinh"), ("SINHALA", "Sinh"), ("SOGD", "Sogd"),
    ("SOGDIAN", "Sogd"), ("SOGO", "Sogo"), ("OLDSOGDIAN", "Sogo"), ("SORA", "Sora"),
    ("SORASOMPENG", "Sora"), ("SOYO", "Soyo"), ("SOYOMBO", "Soyo"), ("SUND", "Sund"),
    ("SUNDANESE", "Sund"), ("SYLO", "Sylo"), ("SYLOTINAGRI", "Sylo"), ("SYRC", "Syrc"),
    ("SYRIAC", "Syrc"), ("TAGB", "Tagb"), ("TAGBANWA", "Tagb"), ("TAKR", "Takr"),
    ("TAKRI", "Takr"), ("TALE", "Tale"), ("TAILE", "Tale"), ("TALU", "Talu"),
    ("NEWTAILUE", "Talu"), ("TAML", "Taml"), ("TAMIL", "Taml"), ("TANG", "Tang"),
    ("TANGUT", "Tang"), ("TAVT", "Tavt"), ("TAIVIET", "Tavt"), ("TELU", "Telu"),
    ("TELUGU", "Telu"), ("TFNG", "Tfng"), ("TIFINAGH", "Tfng"), ("TGLG", "Tglg"),
    ("TAGALOG", "Tglg"), ("THAA", "Thaa"), ("THAANA", "Thaa"), ("THAI", "Thai"), ("TIBT", "Tibt"),
    ("TIBETAN", "Tibt"), ("TIRH", "Tirh"), ("TIRHUTA", "Tirh"), ("TNSA", "Tnsa"),
    ("TANGSA", "Tnsa"), ("TOTO", "Toto"), ("UGAR", "Ugar"), ("UGARITIC", "Ugar"),
    ("VAII", "Vaii"), ("VAI", "Vaii"), ("VITH", "Vith"), ("VITHKUQI", "Vith"), ("WARA", "Wara"),
    ("WARANGCITI", "Wara"), ("WCHO", "Wcho"), ("WANCHO", "Wcho"), ("XPEO", "Xpeo"),
    ("OLDPERSIAN", "Xpeo"), ("XSUX", "Xsux"), ("CUNEIFORM", "Xsux"), ("YEZI", "Yezi"),
    ("YEZIDI", "Yezi"), ("YIII", "Yiii"), ("YI", "Yiii"), ("ZANB", "Zanb"),
    ("ZANABAZARSQUARE", "Zanb"), ("ZINH", "Zinh"), ("INHERITED", "Zinh"), ("QAAI", "Zinh"),
    ("ZYYY", "Zyyy"), ("COMMON", "Zyyy"), ("ZZZZ", "Zzzz"), ("UNKNOWN", "Zzzz")]

end SafeDelete
