/-! # Names of characters: antiquity

The names of the characters from `0x10000` to `0x1BFFF`: ancient and rare scripts. The rows are
those of `Text.CharacterName`.
-/

namespace Conform.Text.CharacterName

/-- The rows of the table. -/
def antiquity : List String := [
  "10000 LINEAR B SYLLABLE:B008 A|B038 E|B028 I",
  "10003 LINEAR B SYLLABLE:B061 O|B010 U|B001 DA|B045 DE|B007 DI|B014 DO|B051 DU|B057 JA|B046 JE",
  "1000D LINEAR B SYLLABLE:B036 JO|B065 JU|B077 KA|B044 KE|B067 KI|B070 KO|B081 KU|B080 MA",
  "10015 LINEAR B SYLLABLE:B013 ME|B073 MI|B015 MO|B023 MU|B006 NA|B024 NE|B030 NI|B052 NO|B055 NU",
  "1001E LINEAR B SYLLABLE:B003 PA|B072 PE|B039 PI|B011 PO|B050 PU|B016 QA|B078 QE|B021 QI|B032 QO",
  "10028 LINEAR B SYLLABLE B060:RA",
  "10029 LINEAR B SYLLABLE:B027 RE|B053 RI|B002 RO|B026 RU|B031 SA|B009 SE|B041 SI|B012 SO|B058 SU",
  "10032 LINEAR B SYLLABLE:B059 TA|B004 TE|B037 TI|B005 TO|B069 TU|B054 WA|B075 WE|B040 WI|B042 WO",
  "1003C LINEAR B SYLLABLE:B017 ZA|B074 ZE",
  "1003F LINEAR B SYLLABLE:B020 ZO|B025 A2|B043 A3|B085 AU|B071 DWE|B090 DWO|B048 NWA",
  "10046 LINEAR B SYLLABLE:B029 PU2|B062 PTE|B076 RA2|B033 RA3|B068 RO2|B066 TA2|B087 TWE|B091 TWO",
  "10050 LINEAR B SYMBOL:B018|B019|B022|B034|B047|B049|B056|B063|B064|B079|B082|B083|B086|B089",
  "10080 LINEAR B IDEOGRAM:B100 MAN|B102 WOMAN|B104 DEER|B105 EQUID|B105F MARE|B105M STALLION",
  "10086 LINEAR B IDEOGRAM:B106F EWE|B106M RAM|B107F SHE-GOAT|B107M HE-GOAT|B108F SOW|B108M BOAR",
  "1008C LINEAR B IDEOGRAM:B109F COW|B109M BULL|B120 WHEAT|B121 BARLEY|B122 OLIVE|B123 SPICE",
  "10092 LINEAR B:IDEOGRAM B125 CYPERUS|MONOGRAM B127 KAPO|MONOGRAM B128 KANAKO",
  "10095 LINEAR B IDEOGRAM:B130 OIL|B131 WINE|B132",
  "10098 LINEAR B MONOGRAM:B133 AREPA|B135 MERI",
  "1009A LINEAR B IDEOGRAM:B140 BRONZE|B141 GOLD|B142|B145 WOOL|B146|B150|B151 HORN|B152|B153|B154",
  "100A4 LINEAR B MONOGRAM B156:TURO2",
  "100A5 LINEAR B IDEOGRAM:B157|B158|B159 CLOTH|B160|B161|B162 GARMENT|B163 ARMOUR|B164|B165",
  "100AE LINEAR B IDEOGRAM:B166|B167|B168|B169|B170|B171|B172|B173 MONTH|B174|B176 TREE|B177|B178",
  "100BA LINEAR B IDEOGRAM:B179|B180|B181|B182|B183|B184|B185|B189|B190|B191 HELMET|B220 FOOTSTOOL",
  "100C5 LINEAR B IDEOGRAM:B225 BATHTUB|B230 SPEAR|B231 ARROW|B232|B233 SWORD|B234|B236",
  "100CC LINEAR B IDEOGRAM:B240 WHEELED CHARIOT|B241 CHARIOT|B242 CHARIOT FRAME|B243 WHEEL|B245",
  "100D1 LINEAR B:IDEOGRAM B246|MONOGRAM B247 DIPTE",
  "100D3 LINEAR B IDEOGRAM:B248|B249|B251|B252|B253|B254 DART|B255|B256|B257|B258|B259",
  "100DE LINEAR B IDEOGRAM VESSEL:B155|B200|B201",
  "100E1 LINEAR B IDEOGRAM VESSEL:B202|B203|B204|B205|B206|B207|B208|B209|B210|B211|B212|B213|B214",
  "100EE LINEAR B IDEOGRAM VESSEL:B215|B216|B217|B218|B219|B221|B222|B226|B227|B228|B229|B250|B305",
  "10100 AEGEAN WORD SEPARATOR:LINE|DOT",
  "10102 AEGEAN CHECK:MARK",
  "10107 AEGEAN NUMBER:ONE|TWO|THREE|FOUR|FIVE|SIX|SEVEN|EIGHT|NINE|TEN|TWENTY|THIRTY|FORTY",
  "10114 AEGEAN NUMBER:FIFTY|SIXTY|SEVENTY|EIGHTY|NINETY|ONE HUNDRED|TWO HUNDRED|THREE HUNDRED",
  "1011C AEGEAN NUMBER:FOUR HUNDRED|FIVE HUNDRED|SIX HUNDRED|SEVEN HUNDRED|EIGHT HUNDRED",
  "10121 AEGEAN NUMBER:NINE HUNDRED|ONE THOUSAND|TWO THOUSAND|THREE THOUSAND|FOUR THOUSAND",
  "10126 AEGEAN NUMBER:FIVE THOUSAND|SIX THOUSAND|SEVEN THOUSAND|EIGHT THOUSAND|NINE THOUSAND",
  "1012B AEGEAN NUMBER:TEN THOUSAND|TWENTY THOUSAND|THIRTY THOUSAND|FORTY THOUSAND|FIFTY THOUSAND",
  "10130 AEGEAN NUMBER:SIXTY THOUSAND|SEVENTY THOUSAND|EIGHTY THOUSAND|NINETY THOUSAND",
  "10137 AEGEAN WEIGHT:BASE UNIT|FIRST SUBUNIT|SECOND SUBUNIT|THIRD SUBUNIT|FOURTH SUBUNIT",
  "1013C AEGEAN:DRY MEASURE FIRST SUBUNIT|LIQUID MEASURE FIRST SUBUNIT",
  "1013E AEGEAN MEASURE:SECOND SUBUNIT|THIRD SUBUNIT",
  "10140 GREEK ACROPHONIC ATTIC ONE:QUARTER|HALF|DRACHMA",
  "10143 GREEK ACROPHONIC ATTIC:FIVE|FIFTY|FIVE HUNDRED|FIVE THOUSAND",
  "10147 GREEK ACROPHONIC ATTIC:FIFTY THOUSAND|FIVE TALENTS|TEN TALENTS|FIFTY TALENTS",
  "1014B GREEK ACROPHONIC ATTIC:ONE HUNDRED TALENTS|FIVE HUNDRED TALENTS|ONE THOUSAND TALENTS",
  "1014E GREEK ACROPHONIC ATTIC:FIVE THOUSAND TALENTS|FIVE STATERS|TEN STATERS|FIFTY STATERS",
  "10152 GREEK ACROPHONIC ATTIC:ONE HUNDRED STATERS|FIVE HUNDRED STATERS|ONE THOUSAND STATERS",
  "10155 GREEK ACROPHONIC ATTIC:TEN THOUSAND STATERS|FIFTY THOUSAND STATERS|TEN MNAS",
  "10158 GREEK ACROPHONIC:HERAEUM ONE PLETHRON|THESPIAN ONE|HERMIONIAN ONE|EPIDAUREAN TWO",
  "1015C GREEK ACROPHONIC:THESPIAN TWO|CYRENAIC TWO DRACHMAS|EPIDAUREAN TWO DRACHMAS",
  "1015F GREEK ACROPHONIC TROEZENIAN:FIVE|TEN|TEN ALTERNATE FORM",
  "10162 GREEK ACROPHONIC:HERMIONIAN TEN|MESSENIAN TEN|THESPIAN TEN|THESPIAN THIRTY",
  "10166 GREEK ACROPHONIC:TROEZENIAN FIFTY|TROEZENIAN FIFTY ALTERNATE FORM|HERMIONIAN FIFTY",
  "10169 GREEK ACROPHONIC THESPIAN:FIFTY|ONE HUNDRED|THREE HUNDRED",
  "1016C GREEK ACROPHONIC:EPIDAUREAN FIVE HUNDRED|TROEZENIAN FIVE HUNDRED|THESPIAN FIVE HUNDRED",
  "1016F GREEK ACROPHONIC:CARYSTIAN FIVE HUNDRED|NAXIAN FIVE HUNDRED|THESPIAN ONE THOUSAND",
  "10172 GREEK ACROPHONIC:THESPIAN FIVE THOUSAND|DELPHIC FIVE MNAS|STRATIAN FIFTY MNAS",
  "10175 GREEK ONE HALF:SIGN|SIGN ALTERNATE FORM",
  "10177 GREEK:TWO THIRDS SIGN|THREE QUARTERS SIGN|YEAR SIGN|TALENT SIGN|DRACHMA SIGN",
  "1017C GREEK:OBOL SIGN|TWO OBOLS SIGN|THREE OBOLS SIGN|FOUR OBOLS SIGN|FIVE OBOLS SIGN",
  "10181 GREEK:METRETES SIGN|KYATHOS BASE SIGN|LITRA SIGN|OUNKIA SIGN|XESTES SIGN|ARTABE SIGN",
  "10187 GREEK:AROURA SIGN|GRAMMA SIGN|TRYBLION BASE SIGN|ZERO SIGN|ONE QUARTER SIGN|SINUSOID SIGN",
  "1018D :GREEK INDICTION SIGN|NOMISMA SIGN",
  "10190 ROMAN:SEXTANS SIGN|UNCIA SIGN|SEMUNCIA SIGN|SEXTULA SIGN|DIMIDIA SEXTULA SIGN",
  "10195 ROMAN:SILIQUA SIGN|DENARIUS SIGN|QUINARIUS SIGN|SESTERTIUS SIGN|DUPONDIUS SIGN|AS SIGN",
  "1019B :ROMAN CENTURIAL SIGN|ASCIA SYMBOL",
  "101A0 GREEK SYMBOL TAU:RHO",
  "101D0 PHAISTOS DISC SIGN:PEDESTRIAN|PLUMED HEAD",
  "101D2 PHAISTOS DISC SIGN:TATTOOED HEAD|CAPTIVE|CHILD|WOMAN|HELMET|GAUNTLET|TIARA|ARROW",
  "101DA PHAISTOS DISC SIGN:BOW|SHIELD|CLUB|MANACLES|MATTOCK|SAW|LID|BOOMERANG|CARPENTRY PLANE",
  "101E3 PHAISTOS DISC SIGN:DOLIUM|COMB|SLING|COLUMN|BEEHIVE|SHIP|HORN|HIDE|BULLS LEG|CAT",
  "101ED PHAISTOS DISC SIGN:RAM|EAGLE|DOVE|TUNNY|BEE|PLANE TREE|VINE|PAPYRUS|ROSETTE|LILY|OX BACK",
  "101F8 PHAISTOS DISC SIGN:FLUTE|GRATER|STRAINER|SMALL AXE|WAVY BAND|COMBINING OBLIQUE STROKE",
  "10280 LYCIAN LETTER:A|E|B|BH|G|D|I|W|Z|TH|J|K|Q|L|M|N|MM|NN|U|P|KK|R|S|T|TT|AN|EN|H|X",
  "102A0 CARIAN LETTER:A|P2|D|L|UUU|R|LD|A2|Q|B|M|O|D2|T|SH|SH2|S|C-18|U|NN|X|N|TT2|P|SS|I|E|UUUU",
  "102BC CARIAN LETTER:K|K2|ND|UU|G|G2|ST|ST2|NG|II|C-39|TT|UUU2|RR|MB|MB2|MB3|MB4|LD2|E2|UUU3",
  "102E0 COPTIC EPACT THOUSANDS:MARK",
  "102E1 COPTIC EPACT DIGIT:ONE|TWO|THREE|FOUR|FIVE|SIX|SEVEN|EIGHT|NINE",
  "102EA COPTIC EPACT NUMBER:TEN|TWENTY|THIRTY|FORTY|FIFTY|SIXTY|SEVENTY",
  "102F1 COPTIC EPACT NUMBER:EIGHTY|NINETY|ONE HUNDRED|TWO HUNDRED|THREE HUNDRED|FOUR HUNDRED",
  "102F7 COPTIC EPACT NUMBER:FIVE HUNDRED|SIX HUNDRED|SEVEN HUNDRED|EIGHT HUNDRED|NINE HUNDRED",
  "10300 OLD ITALIC LETTER:A|BE|KE|DE|E|VE|ZE|HE|THE|I",
  "1030A OLD ITALIC LETTER:KA|EL|EM|EN|ESH|O|PE|SHE|KU|ER|ES|TE|U|EKS|PHE|KHE|EF|ERS|CHE|II|UU|ESS",
  "10320 OLD ITALIC NUMERAL:ONE|FIVE|TEN|FIFTY",
  "1032D OLD ITALIC LETTER:YE|NORTHERN TSE|SOUTHERN TSE",
  "10330 GOTHIC LETTER:AHSA|BAIRKAN|GIBA|DAGS|AIHVUS",
  "10335 GOTHIC LETTER:QAIRTHRA|IUJA|HAGL|THIUTH|EIS|KUSMA|LAGUS|MANNA|NAUTHS|JER|URUS|PAIRTHRA",
  "10341 GOTHIC LETTER:NINETY|RAIDA|SAUIL|TEIWS|WINJA|FAIHU|IGGWS|HWAIR|OTHAL|NINE HUNDRED",
  "10350 OLD PERMIC LETTER:AN|BUR|GAI|DOI|E|ZHOI",
  "10356 OLD PERMIC LETTER:DZHOI|ZATA|DZITA|I|KOKE|LEI|MENOE|NENOE|VOOI|PEEI|REI|SII|TAI|U|CHERY",
  "10365 OLD PERMIC LETTER:SHOOI|SHCHOOI|YRY|YERU|O|OO|EF|HA|TSIU|VER|YER|YERI|YAT|IE|YU|YA|IA",
  "10376 COMBINING OLD PERMIC LETTER:AN|DOI|ZATA|NENOE|SII",
  "10380 UGARITIC LETTER:ALPA|BETA|GAMLA|KHA|DELTA|HO|WO|ZETA|HOTA|TET|YOD|KAF|SHIN|LAMDA",
  "1038E UGARITIC LETTER:MEM|DHAL|NUN|ZU|SAMKA|AIN|PU|SADE|QOPA|RASHA|THANNA|GHAIN|TO|I|U|SSU",
  "1039F UGARITIC WORD:DIVIDER",
  "103A0 OLD PERSIAN SIGN:A|I|U|KA|KU|GA|GU|XA|CA|JA|JI|TA|TU",
  "103AD OLD PERSIAN SIGN:DA|DI|DU|THA|PA|BA|FA|NA|NU|MA|MI|MU|YA|VA|VI|RA|RU|LA|SA|ZA|SHA|SSA|HA",
  "103C8 OLD PERSIAN SIGN:AURAMAZDAA|AURAMAZDAA-2|AURAMAZDAAHA|XSHAAYATHIYA|DAHYAAUSH|DAHYAAUSH-2",
  "103CE OLD PERSIAN:SIGN BAGA|SIGN BUUMISH|WORD DIVIDER",
  "103D1 OLD PERSIAN NUMBER:ONE|TWO|TEN|TWENTY|HUNDRED",
  "10400 DESERET CAPITAL LETTER LONG:I|E|A|AH|O|OO",
  "10406 DESERET CAPITAL LETTER SHORT:I|E|A|AH|O|OO",
  "1040C DESERET CAPITAL LETTER:AY|OW|WU|YEE|H|PEE|BEE|TEE|DEE|CHEE",
  "10416 DESERET CAPITAL LETTER:JEE|KAY|GAY|EF|VEE|ETH|THEE|ES|ZEE|ESH|ZHEE|ER|EL|EM|EN|ENG|OI|EW",
  "10428 DESERET SMALL LETTER LONG:I|E|A|AH|O|OO",
  "1042E DESERET SMALL LETTER SHORT:I|E|A|AH|O|OO",
  "10434 DESERET SMALL LETTER:AY|OW|WU|YEE|H|PEE|BEE|TEE|DEE|CHEE",
  "1043E DESERET SMALL LETTER:JEE|KAY|GAY|EF|VEE|ETH|THEE|ES|ZEE|ESH|ZHEE|ER|EL|EM|EN|ENG|OI|EW",
  "10450 SHAVIAN LETTER:PEEP|TOT|KICK|FEE|THIGH|SO|SURE|CHURCH|YEA|HUNG|BIB|DEAD|GAG|VOW",
  "1045E SHAVIAN LETTER:THEY|ZOO|MEASURE|JUDGE|WOE|HA-HA|LOLL|MIME|IF|EGG|ASH|ADO|ON|WOOL|OUT|AH",
  "1046E SHAVIAN LETTER:ROAR|NUN|EAT|AGE|ICE|UP|OAK|OOZE|OIL|AWE|ARE|OR|AIR|ERR|ARRAY|EAR|IAN|YEW",
  "10480 OSMANYA LETTER:ALEF|BA|TA|JA|XA|KHA|DEEL|RA|SA",
  "10489 OSMANYA LETTER:SHIIN|DHA|CAYN|GA|FA|QAAF|KAAF|LAAN|MIIN|NUUN|WAW|HA|YA|A|E|I|O|U|AA|EE|OO",
  "104A0 OSMANYA DIGIT:ZERO|ONE|TWO|THREE|FOUR|FIVE|SIX|SEVEN|EIGHT|NINE",
  "104B0 OSAGE CAPITAL LETTER:A|AI|AIN|AH|BRA|CHA|EHCHA|E|EIN|HA|HYA|I|KA|EHKA|KYA|LA|MA|NA",
  "104C2 OSAGE CAPITAL LETTER:O|OIN|PA|EHPA|SA|SHA|TA|EHTA|TSA|EHTSA|TSHA|DHA|U|WA|KHA|GHA|ZA|ZHA",
  "104D8 OSAGE SMALL LETTER:A|AI|AIN|AH|BRA|CHA|EHCHA|E|EIN|HA|HYA|I|KA|EHKA|KYA|LA|MA",
  "104E9 OSAGE SMALL LETTER:NA|O|OIN|PA|EHPA|SA|SHA|TA|EHTA|TSA|EHTSA|TSHA|DHA|U|WA|KHA|GHA|ZA|ZHA",
  "10500 ELBASAN LETTER:A|BE|CE|CHE|DE|NDE|DHE|EI|E|FE|GE|GJE|HE|I|JE|KE|LE|LLE",
  "10512 ELBASAN LETTER:ME|NE|NA|NJE|O|PE|QE|RE|RRE|SE|SHE|TE|THE|U|VE|XE|Y|ZE|ZHE|GHE|GHAMMA|KHE",
  "10530 CAUCASIAN ALBANIAN LETTER:ALT|BET|GIM|DAT|EB|ZARL|EYN|ZHIL|TAS|CHA|YOWD|ZHA",
  "1053C CAUCASIAN ALBANIAN LETTER:IRB|SHA|LAN|INYA|XEYN|DYAN|CAR|JHOX|KAR|LYIT|HEYT|QAY|AOR|CHOY",
  "1054A CAUCASIAN ALBANIAN LETTER:CHI|CYAY|MAQ|QAR|NOWC|DZYAY|SHAK|JAYN|ON|TYAY|FAM|DZAY|CHAT",
  "10557 CAUCASIAN ALBANIAN LETTER:PEN|GHEYS|RAT|SEYK|VEYZ|TIWR|SHOY|IWN|CYAW|CAYN|YAYD|PIWR|KIW",
  "1056F CAUCASIAN ALBANIAN CITATION:MARK",
  "10570 VITHKUQI CAPITAL LETTER:A|BBE|BE|CE|CHE|DE|DHE|EI|E|FE|GA",
  "1057C VITHKUQI CAPITAL LETTER:HA|HHA|I|IJE|JE|KA|LA|LLA|ME|NE|NJE|O|PE|QA|RE",
  "1058C VITHKUQI CAPITAL LETTER:SE|SHE|TE|THE|U|VE|XE",
  "10594 VITHKUQI CAPITAL LETTER:Y|ZE",
  "10597 VITHKUQI SMALL LETTER:A|BBE|BE|CE|CHE|DE|DHE|EI|E|FE|GA",
  "105A3 VITHKUQI SMALL LETTER:HA|HHA|I|IJE|JE|KA|LA|LLA|ME|NE|NJE|O|PE|QA|RE",
  "105B3 VITHKUQI SMALL LETTER:SE|SHE|TE|THE|U|VE|XE",
  "105BB VITHKUQI SMALL LETTER:Y|ZE",
  "10600 LINEAR A SIGN:AB001|AB002|AB003|AB004|AB005",
  "10605 LINEAR A SIGN:AB006|AB007|AB008|AB009|AB010|AB011|AB013|AB016|AB017|AB020|AB021|AB021F",
  "10611 LINEAR A SIGN:AB021M|AB022|AB022F|AB022M|AB023|AB023M|AB024|AB026|AB027|AB028|A028B|AB029",
  "1061D LINEAR A SIGN:AB030|AB031|AB034|AB037|AB038|AB039|AB040|AB041|AB044|AB045|AB046|AB047",
  "10629 LINEAR A SIGN:AB048|AB049|AB050|AB051|AB053|AB054|AB055|AB056|AB057|AB058|AB059|AB060",
  "10635 LINEAR A SIGN:AB061|AB065|AB066|AB067|AB069|AB070|AB073|AB074|AB076|AB077|AB078|AB079",
  "10641 LINEAR A SIGN:AB080|AB081|AB082|AB085|AB086|AB087|A100-102|AB118|AB120|A120B|AB122|AB123",
  "1064D LINEAR A SIGN:AB131A|AB131B|A131C|AB164|AB171|AB180|AB188|AB191|A301|A302|A303|A304|A305",
  "1065A LINEAR A SIGN:A306|A307|A308|A309A|A309B|A309C|A310|A311|A312|A313A|A313B|A313C|A314|A315",
  "10668 LINEAR A SIGN:A316|A317|A318|A319|A320|A321|A322|A323|A324|A325|A326|A327|A328|A329|A330",
  "10677 LINEAR A SIGN:A331|A332|A333|A334|A335|A336|A337|A338|A339|A340|A341|A342|A343|A344|A345",
  "10686 LINEAR A SIGN:A346|A347|A348|A349|A350|A351|A352|A353|A354|A355|A356|A357|A358|A359|A360",
  "10695 LINEAR A SIGN:A361|A362|A363|A364|A365|A366|A367|A368|A369|A370|A371|A400-VAS|A401-VAS",
  "106A2 LINEAR A SIGN:A402-VAS|A403-VAS|A404-VAS|A405-VAS|A406-VAS|A407-VAS|A408-VAS|A409-VAS",
  "106AA LINEAR A SIGN:A410-VAS|A411-VAS|A412-VAS|A413-VAS|A414-VAS|A415-VAS|A416-VAS|A417-VAS",
  "106B2 LINEAR A SIGN:A418-VAS|A501|A502|A503|A504|A505|A506|A508|A509|A510|A511|A512|A513",
  "106BF LINEAR A SIGN:A515|A516|A520|A521|A523|A524|A525|A526|A527|A528|A529|A530|A531|A532|A534",
  "106CE LINEAR A SIGN:A535|A536|A537|A538|A539|A540|A541|A542|A545|A547|A548|A549|A550|A551|A552",
  "106DD LINEAR A SIGN:A553|A554|A555|A556|A557|A559|A563|A564|A565|A566|A568|A569|A570|A571|A572",
  "106EC LINEAR A SIGN:A573|A574|A575|A576|A577|A578|A579|A580|A581|A582|A583|A584|A585|A586|A587",
  "106FB LINEAR A SIGN:A588|A589|A591|A592|A594|A595|A596|A598|A600|A601|A602|A603|A604|A606|A608",
  "1070A LINEAR A SIGN:A609|A610|A611|A612|A613|A614|A615|A616|A617|A618|A619|A620|A621|A622|A623",
  "10719 LINEAR A SIGN:A624|A626|A627|A628|A629|A634|A637|A638|A640|A642|A643|A644|A645|A646|A648",
  "10728 LINEAR A SIGN:A649|A651|A652|A653|A654|A655|A656|A657|A658|A659|A660|A661|A662|A663|A664",
  "10740 LINEAR A SIGN:A701 A|A702 B|A703 D|A704 E",
  "10744 LINEAR A SIGN:A705 F|A706 H|A707 J|A708 K|A709 L|A709-2 L2|A709-3 L3|A709-4 L4|A709-6 L6",
  "1074D LINEAR A SIGN:A710 W|A711 X|A712 Y|A713 OMEGA|A714 ABB|A715 BB|A717 DD|A726 EYYY|A732 JE",
  "10760 LINEAR A SIGN:A800|A801|A802|A803|A804|A805|A806|A807",
  "10780 MODIFIER LETTER SMALL CAPITAL:AA",
  "10781 MODIFIER LETTER SUPERSCRIPT:TRIANGULAR COLON|HALF TRIANGULAR COLON",
  "10783 MODIFIER LETTER SMALL:AE|CAPITAL B|B WITH HOOK",
  "10787 MODIFIER LETTER SMALL DZ:DIGRAPH|DIGRAPH WITH RETROFLEX HOOK|DIGRAPH WITH CURL",
  "1078A MODIFIER LETTER SMALL:DEZH DIGRAPH|D WITH TAIL|D WITH HOOK",
  "1078D MODIFIER LETTER SMALL:D WITH HOOK AND TAIL|REVERSED E|CLOSED REVERSED OPEN E|FENG DIGRAPH",
  "10791 MODIFIER LETTER SMALL:RAMS HORN|CAPITAL G|G WITH HOOK|CAPITAL G WITH HOOK|H WITH STROKE",
  "10796 MODIFIER LETTER SMALL:CAPITAL H|HENG WITH HOOK|DOTLESS J WITH STROKE AND HOOK",
  "10799 MODIFIER LETTER SMALL:LS DIGRAPH|LZ DIGRAPH|L WITH BELT|CAPITAL L WITH BELT",
  "1079D MODIFIER LETTER SMALL:L WITH RETROFLEX HOOK AND BELT|LEZH|LEZH WITH RETROFLEX HOOK",
  "107A0 MODIFIER LETTER SMALL:TURNED Y|TURNED Y WITH BELT|O WITH STROKE|CAPITAL OE|CLOSED OMEGA|Q",
  "107A6 MODIFIER LETTER SMALL TURNED R WITH LONG:LEG|LEG AND RETROFLEX HOOK",
  "107A8 MODIFIER LETTER SMALL:R WITH TAIL|R WITH FISHHOOK|CAPITAL R|TC DIGRAPH WITH CURL",
  "107AC MODIFIER LETTER SMALL TS:DIGRAPH|DIGRAPH WITH RETROFLEX HOOK",
  "107AE MODIFIER LETTER SMALL:TESH DIGRAPH|T WITH RETROFLEX HOOK|V WITH RIGHT HOOK",
  "107B2 MODIFIER LETTER SMALL CAPITAL:Y",
  "107B3 MODIFIER LETTER:GLOTTAL STOP WITH STROKE|REVERSED GLOTTAL STOP WITH STROKE",
  "107B5 MODIFIER LETTER:BILABIAL CLICK|DENTAL CLICK|LATERAL CLICK",
  "107B8 MODIFIER LETTER:ALVEOLAR CLICK|RETROFLEX CLICK WITH RETROFLEX HOOK|SMALL S WITH CURL",
  "10800 CYPRIOT SYLLABLE:A|E|I|O|U|JA",
  "10808 CYPRIOT SYLLABLE:JO",
  "1080A CYPRIOT SYLLABLE:KA|KE|KI|KO|KU|LA|LE|LI|LO|LU|MA|ME|MI|MO|MU|NA|NE|NI|NO|NU",
  "1081E CYPRIOT SYLLABLE:PA|PE|PI|PO|PU|RA|RE|RI|RO|RU|SA|SE|SI|SO|SU|TA|TE|TI|TO|TU|WA|WE|WI|WO",
  "10837 CYPRIOT SYLLABLE:XA|XE",
  "1083C CYPRIOT SYLLABLE:ZA",
  "1083F CYPRIOT SYLLABLE:ZO",
  "10840 IMPERIAL ARAMAIC LETTER:ALEPH|BETH|GIMEL|DALETH|HE|WAW|ZAYIN|HETH|TETH",
  "10849 IMPERIAL ARAMAIC LETTER:YODH|KAPH|LAMEDH|MEM|NUN|SAMEKH|AYIN|PE|SADHE|QOPH|RESH|SHIN|TAW",
  "10857 IMPERIAL ARAMAIC SECTION:SIGN",
  "10858 IMPERIAL ARAMAIC NUMBER:ONE|TWO|THREE|TEN|TWENTY|ONE HUNDRED|ONE THOUSAND|TEN THOUSAND",
  "10860 PALMYRENE LETTER:ALEPH|BETH|GIMEL|DALETH|HE|WAW|ZAYIN|HETH|TETH|YODH",
  "1086A PALMYRENE LETTER:KAPH|LAMEDH|MEM|FINAL NUN|NUN|SAMEKH|AYIN|PE|SADHE|QOPH|RESH|SHIN|TAW",
  "10877 PALMYRENE:LEFT-POINTING FLEURON|RIGHT-POINTING FLEURON",
  "10879 PALMYRENE NUMBER:ONE|TWO|THREE|FOUR|FIVE|TEN|TWENTY",
  "10880 NABATAEAN LETTER:FINAL ALEPH|ALEPH|FINAL BETH|BETH|GIMEL|DALETH|FINAL HE|HE|WAW|ZAYIN",
  "1088A NABATAEAN LETTER:HETH|TETH|FINAL YODH|YODH|FINAL KAPH|KAPH|FINAL LAMEDH|LAMEDH|FINAL MEM",
  "10893 NABATAEAN LETTER:MEM|FINAL NUN|NUN|SAMEKH|AYIN|PE|SADHE|QOPH|RESH|FINAL SHIN|SHIN|TAW",
  "108A7 NABATAEAN NUMBER:ONE|TWO|THREE|FOUR",
  "108AB NABATAEAN CRUCIFORM NUMBER:FOUR",
  "108AC NABATAEAN NUMBER:FIVE|TEN|TWENTY|ONE HUNDRED",
  "108E0 HATRAN LETTER:ALEPH|BETH|GIMEL|DALETH-RESH",
  "108E4 HATRAN LETTER:HE|WAW|ZAYN|HETH|TETH|YODH|KAPH|LAMEDH|MEM|NUN|SAMEKH|AYN|PE|SADHE|QOPH",
  "108F4 HATRAN LETTER:SHIN|TAW",
  "108FB HATRAN NUMBER:ONE|FIVE|TEN|TWENTY|ONE HUNDRED",
  "10900 PHOENICIAN LETTER:ALF|BET|GAML|DELT|HE",
  "10905 PHOENICIAN LETTER:WAU|ZAI|HET|TET|YOD|KAF|LAMD|MEM|NUN|SEMK|AIN|PE|SADE|QOF|ROSH|SHIN|TAU",
  "10916 PHOENICIAN NUMBER:ONE|TEN|TWENTY|ONE HUNDRED|TWO|THREE",
  "1091F PHOENICIAN WORD:SEPARATOR",
  "10920 LYDIAN LETTER:A|B|G|D|E|V|I|Y|K|L|M|N|O|R|SS|T|U|F|Q|S|TT|AN|EN|LY|NN|C",
  "1093F LYDIAN TRIANGULAR:MARK",
  "10980 MEROITIC HIEROGLYPHIC LETTER:A|E|I|O|YA|WA|BA|BA-2|PA|MA|NA|NA-2|NE|NE-2",
  "1098E MEROITIC HIEROGLYPHIC LETTER:RA|RA-2|LA|KHA|HHA|SA|SA-2|SE|KA|QA|TA|TA-2|TE|TE-2|TO|DA",
  "1099E MEROITIC HIEROGLYPHIC SYMBOL:VIDJ|VIDJ-2",
  "109A0 MEROITIC CURSIVE LETTER:A|E|I|O|YA|WA",
  "109A6 MEROITIC CURSIVE LETTER:BA|PA|MA|NA|NE|RA|LA|KHA|HHA|SA|ARCHAIC SA|SE|KA|QA|TA|TE|TO|DA",
  "109BC MEROITIC CURSIVE:FRACTION ELEVEN TWELFTHS|FRACTION ONE HALF|LOGOGRAM RMT|LOGOGRAM IMN",
  "109C0 MEROITIC CURSIVE NUMBER:ONE|TWO|THREE|FOUR|FIVE",
  "109C5 MEROITIC CURSIVE NUMBER:SIX|SEVEN|EIGHT|NINE|TEN|TWENTY|THIRTY|FORTY|FIFTY|SIXTY|SEVENTY",
  "109D2 MEROITIC CURSIVE NUMBER:ONE HUNDRED|TWO HUNDRED|THREE HUNDRED|FOUR HUNDRED",
  "109D6 MEROITIC CURSIVE NUMBER:FIVE HUNDRED|SIX HUNDRED|SEVEN HUNDRED|EIGHT HUNDRED|NINE HUNDRED",
  "109DB MEROITIC CURSIVE NUMBER:ONE THOUSAND|TWO THOUSAND|THREE THOUSAND|FOUR THOUSAND",
  "109DF MEROITIC CURSIVE NUMBER:FIVE THOUSAND|SIX THOUSAND|SEVEN THOUSAND|EIGHT THOUSAND",
  "109E3 MEROITIC CURSIVE NUMBER:NINE THOUSAND|TEN THOUSAND|TWENTY THOUSAND|THIRTY THOUSAND",
  "109E7 MEROITIC CURSIVE NUMBER:FORTY THOUSAND|FIFTY THOUSAND|SIXTY THOUSAND|SEVENTY THOUSAND",
  "109EB MEROITIC CURSIVE NUMBER:EIGHTY THOUSAND|NINETY THOUSAND|ONE HUNDRED THOUSAND",
  "109EE MEROITIC CURSIVE NUMBER:TWO HUNDRED THOUSAND|THREE HUNDRED THOUSAND|FOUR HUNDRED THOUSAND",
  "109F1 MEROITIC CURSIVE NUMBER:FIVE HUNDRED THOUSAND|SIX HUNDRED THOUSAND|SEVEN HUNDRED THOUSAND",
  "109F4 MEROITIC CURSIVE NUMBER:EIGHT HUNDRED THOUSAND|NINE HUNDRED THOUSAND",
  "109F6 MEROITIC CURSIVE FRACTION:ONE TWELFTH|TWO TWELFTHS",
  "109F8 MEROITIC CURSIVE FRACTION:THREE TWELFTHS|FOUR TWELFTHS|FIVE TWELFTHS|SIX TWELFTHS",
  "109FC MEROITIC CURSIVE FRACTION:SEVEN TWELFTHS|EIGHT TWELFTHS|NINE TWELFTHS|TEN TWELFTHS",
  "10A00 KHAROSHTHI LETTER:A",
  "10A01 KHAROSHTHI VOWEL SIGN:I|U|VOCALIC R",
  "10A05 KHAROSHTHI VOWEL SIGN:E|O",
  "10A0C KHAROSHTHI:VOWEL LENGTH MARK|SIGN DOUBLE RING BELOW|SIGN ANUSVARA|SIGN VISARGA",
  "10A10 KHAROSHTHI LETTER:KA|KHA|GA|GHA",
  "10A15 KHAROSHTHI LETTER:CA|CHA|JA",
  "10A19 KHAROSHTHI LETTER:NYA|TTA|TTHA|DDA|DDHA|NNA|TA|THA|DA",
  "10A22 KHAROSHTHI LETTER:DHA|NA|PA|PHA|BA|BHA|MA|YA|RA|LA|VA|SHA|SSA|SA|ZA|HA|KKA|TTTHA|TTTA|VHA",
  "10A38 KHAROSHTHI SIGN:BAR ABOVE|CAUDA|DOT BELOW",
  "10A3F KHAROSHTHI:VIRAMA",
  "10A40 KHAROSHTHI DIGIT:ONE|TWO|THREE|FOUR",
  "10A44 KHAROSHTHI NUMBER:TEN|TWENTY|ONE HUNDRED|ONE THOUSAND",
  "10A48 KHAROSHTHI FRACTION ONE:HALF",
  "10A50 KHAROSHTHI PUNCTUATION:DOT|SMALL CIRCLE",
  "10A52 KHAROSHTHI PUNCTUATION:CIRCLE|CRESCENT BAR|MANGALAM|LOTUS|DANDA|DOUBLE DANDA|LINES",
  "10A60 OLD SOUTH ARABIAN LETTER:HE|LAMEDH|HETH|MEM|QOPH",
  "10A65 OLD SOUTH ARABIAN LETTER:WAW|SHIN|RESH|BETH|TAW|SAT|KAPH|NUN|KHETH|SADHE|SAMEKH|FE|ALEF",
  "10A72 OLD SOUTH ARABIAN LETTER:AYN|DHADHE|GIMEL|DALETH|GHAYN|TETH|ZAYN|DHALETH|YODH|THAW|THETH",
  "10A7D OLD SOUTH ARABIAN:NUMBER ONE|NUMBER FIFTY|NUMERIC INDICATOR",
  "10A80 OLD NORTH ARABIAN LETTER:HEH|LAM|HAH|MEEM|QAF|WAW|ES-2|REH|BEH|TEH|ES-1|KAF|NOON|KHAH|SAD",
  "10A8F OLD NORTH ARABIAN LETTER:ES-3|FEH|ALEF|AIN|DAD|GEEM|DAL|GHAIN|TAH|ZAIN|THAL|YEH|THEH|ZAH",
  "10A9D OLD NORTH ARABIAN NUMBER:ONE|TEN|TWENTY",
  "10AC0 MANICHAEAN LETTER:ALEPH|BETH|BHETH|GIMEL|GHIMEL|DALETH|HE|WAW",
  "10AC8 MANICHAEAN:SIGN UD|LETTER ZAYIN|LETTER ZHAYIN",
  "10ACB MANICHAEAN LETTER:JAYIN|JHAYIN|HETH|TETH|YODH|KAPH|XAPH|KHAPH|LAMEDH|DHAMEDH|THAMEDH|MEM",
  "10AD7 MANICHAEAN LETTER:NUN|SAMEKH|AYIN|AAYIN|PE|FE|SADHE|QOPH|XOPH|QHOPH|RESH|SHIN|SSHIN|TAW",
  "10AE5 MANICHAEAN ABBREVIATION MARK:ABOVE|BELOW",
  "10AEB MANICHAEAN NUMBER:ONE|FIVE|TEN|TWENTY|ONE HUNDRED",
  "10AF0 MANICHAEAN PUNCTUATION:STAR|FLEURON",
  "10AF2 MANICHAEAN PUNCTUATION:DOUBLE DOT WITHIN DOT|DOT WITHIN DOT|DOT|TWO DOTS|LINE FILLER",
  "10B00 AVESTAN LETTER:A|AA|AO|AAO|AN|AAN|AE|AEE|E|EE|O",
  "10B0B AVESTAN LETTER:OO|I|II|U|UU|KE|XE|XYE|XVE|GE|GGE|GHE|CE|JE|TE|THE|DE|DHE|TTE|PE|FE|BE|BHE",
  "10B22 AVESTAN LETTER:NGE|NGYE|NGVE|NE|NYE|NNE|ME|HME|YYE|YE|VE|RE|LE|SE|ZE|SHE|ZHE|SHYE|SSHE|HE",
  "10B39 AVESTAN ABBREVIATION:MARK",
  "10B3A :TINY TWO DOTS OVER ONE DOT PUNCTUATION|SMALL TWO DOTS OVER ONE DOT PUNCTUATION",
  "10B3C LARGE:TWO DOTS OVER ONE DOT PUNCTUATION|ONE DOT OVER TWO DOTS PUNCTUATION",
  "10B3E LARGE:TWO RINGS OVER ONE RING PUNCTUATION|ONE RING OVER TWO RINGS PUNCTUATION",
  "10B40 INSCRIPTIONAL PARTHIAN LETTER:ALEPH|BETH|GIMEL|DALETH|HE|WAW|ZAYIN|HETH|TETH|YODH",
  "10B4A INSCRIPTIONAL PARTHIAN LETTER:KAPH|LAMEDH|MEM|NUN|SAMEKH|AYIN|PE|SADHE|QOPH|RESH|SHIN|TAW",
  "10B58 INSCRIPTIONAL PARTHIAN NUMBER:ONE|TWO|THREE|FOUR|TEN|TWENTY|ONE HUNDRED|ONE THOUSAND",
  "10B60 INSCRIPTIONAL PAHLAVI LETTER:ALEPH|BETH|GIMEL|DALETH|HE|WAW-AYIN-RESH|ZAYIN|HETH",
  "10B68 INSCRIPTIONAL PAHLAVI LETTER:TETH|YODH|KAPH|LAMEDH|MEM-QOPH|NUN|SAMEKH|PE|SADHE|SHIN|TAW",
  "10B78 INSCRIPTIONAL PAHLAVI NUMBER:ONE|TWO|THREE|FOUR|TEN|TWENTY|ONE HUNDRED|ONE THOUSAND",
  "10B80 PSALTER PAHLAVI LETTER:ALEPH|BETH|GIMEL|DALETH|HE|WAW-AYIN-RESH",
  "10B86 PSALTER PAHLAVI LETTER:ZAYIN|HETH|YODH|KAPH|LAMEDH|MEM-QOPH|NUN|SAMEKH|PE|SADHE|SHIN|TAW",
  "10B99 PSALTER PAHLAVI:SECTION MARK|TURNED SECTION MARK|FOUR DOTS WITH CROSS|FOUR DOTS WITH DOT",
  "10BA9 PSALTER PAHLAVI NUMBER:ONE|TWO|THREE|FOUR|TEN|TWENTY|ONE HUNDRED",
  "10C00 OLD TURKIC LETTER:ORKHON A|YENISEI A|YENISEI AE|ORKHON I|YENISEI I|YENISEI E",
  "10C06 OLD TURKIC LETTER ORKHON:O|OE",
  "10C08 OLD TURKIC LETTER:YENISEI OE|ORKHON AB|YENISEI AB|ORKHON AEB|YENISEI AEB|ORKHON AG",
  "10C0E OLD TURKIC LETTER:YENISEI AG|ORKHON AEG|YENISEI AEG|ORKHON AD|YENISEI AD|ORKHON AED",
  "10C14 OLD TURKIC LETTER:ORKHON EZ|YENISEI EZ|ORKHON AY|YENISEI AY|ORKHON AEY|YENISEI AEY",
  "10C1A OLD TURKIC LETTER:ORKHON AEK|YENISEI AEK|ORKHON OEK|YENISEI OEK|ORKHON AL|YENISEI AL",
  "10C20 OLD TURKIC LETTER ORKHON:AEL|ELT|EM|AN|AEN",
  "10C25 OLD TURKIC LETTER:YENISEI AEN|ORKHON ENT|YENISEI ENT|ORKHON ENC|YENISEI ENC",
  "10C2A OLD TURKIC LETTER:ORKHON ENY|YENISEI ENY|YENISEI ANG|ORKHON ENG|YENISEI AENG|ORKHON EP",
  "10C30 OLD TURKIC LETTER:ORKHON OP|ORKHON IC|ORKHON EC|YENISEI EC|ORKHON AQ|YENISEI AQ|ORKHON IQ",
  "10C37 OLD TURKIC LETTER:YENISEI IQ|ORKHON OQ|YENISEI OQ|ORKHON AR|YENISEI AR|ORKHON AER",
  "10C3D OLD TURKIC LETTER:ORKHON AS|ORKHON AES|ORKHON ASH|YENISEI ASH|ORKHON ESH|YENISEI ESH",
  "10C43 OLD TURKIC LETTER:ORKHON AT|YENISEI AT|ORKHON AET|YENISEI AET|ORKHON OT|ORKHON BASH",
  "10C80 OLD HUNGARIAN CAPITAL LETTER:A|AA|EB|AMB|EC|ENC|ECS|ED|AND|E|CLOSE E|EE|EF|EG",
  "10C8E OLD HUNGARIAN CAPITAL LETTER:EGY|EH|I|II|EJ|EK|AK|UNK|EL|ELY|EM|EN|ENY|O|OO|NIKOLSBURG OE",
  "10C9E OLD HUNGARIAN CAPITAL LETTER:RUDIMENTA OE|OEE|EP|EMP|ER|SHORT ER|ES|ESZ|ET|ENT|ETY|ECH",
  "10CAA OLD HUNGARIAN CAPITAL LETTER:U|UU|NIKOLSBURG UE|RUDIMENTA UE|EV|EZ|EZS|ENT-SHAPED SIGN|US",
  "10CC0 OLD HUNGARIAN SMALL LETTER:A|AA|EB|AMB|EC|ENC|ECS|ED|AND|E|CLOSE E|EE|EF|EG",
  "10CCE OLD HUNGARIAN SMALL LETTER:EGY|EH|I|II|EJ|EK|AK|UNK|EL|ELY|EM|EN|ENY|O|OO|NIKOLSBURG OE",
  "10CDE OLD HUNGARIAN SMALL LETTER:RUDIMENTA OE|OEE|EP|EMP|ER|SHORT ER|ES|ESZ|ET|ENT|ETY|ECH",
  "10CEA OLD HUNGARIAN SMALL LETTER:U|UU|NIKOLSBURG UE|RUDIMENTA UE|EV|EZ|EZS|ENT-SHAPED SIGN|US",
  "10CFA OLD HUNGARIAN NUMBER:ONE|FIVE|TEN|FIFTY|ONE HUNDRED|ONE THOUSAND",
  "10D00 HANIFI ROHINGYA LETTER:A|BA|PA|TA|TTA|JA|CA|HA|KHA|FA|DA|DDA",
  "10D0C HANIFI ROHINGYA LETTER:RA|RRA|ZA|SA|SHA|KA|GA|LA|MA|NA|WA|KINNA WA|YA|KINNA YA|NGA|NYA|VA",
  "10D1D HANIFI ROHINGYA VOWEL:A|I|U|E|O",
  "10D22 HANIFI ROHINGYA:MARK SAKIN|MARK NA KHONNA|SIGN HARBAHAY|SIGN TAHALA|SIGN TANA|SIGN TASSI",
  "10D30 HANIFI ROHINGYA DIGIT:ZERO|ONE|TWO|THREE|FOUR|FIVE|SIX|SEVEN|EIGHT|NINE",
  "10E60 RUMI DIGIT:ONE|TWO|THREE|FOUR|FIVE|SIX|SEVEN|EIGHT|NINE",
  "10E69 RUMI NUMBER:TEN|TWENTY|THIRTY|FORTY|FIFTY|SIXTY",
  "10E6F RUMI NUMBER:SEVENTY|EIGHTY|NINETY|ONE HUNDRED|TWO HUNDRED|THREE HUNDRED|FOUR HUNDRED",
  "10E76 RUMI NUMBER:FIVE HUNDRED|SIX HUNDRED|SEVEN HUNDRED|EIGHT HUNDRED|NINE HUNDRED",
  "10E7B RUMI FRACTION:ONE HALF|ONE QUARTER|ONE THIRD|TWO THIRDS",
  "10E80 YEZIDI LETTER:ELIF|BE|PE|PHE|THE|SE|CIM",
  "10E87 YEZIDI LETTER:CHIM|CHHIM|HHA|XA|DAL|ZAL|RA|RHA|ZA|JA|SIN|SHIN|SAD|DAD|TA|ZE|EYN|XHEYN|FA",
  "10E9A YEZIDI LETTER:VA|VA ALTERNATE FORM|QAF|KAF|KHAF|GAF|LAM|MIM|NUN|UM|WAW|OW|EW|HAY|YOT|ET",
  "10EAB YEZIDI:COMBINING HAMZA MARK|COMBINING MADDA MARK|HYPHENATION MARK",
  "10EB0 YEZIDI LETTER:LAM WITH DOT ABOVE|YOT WITH CIRCUMFLEX ABOVE",
  "10F00 OLD SOGDIAN LETTER:ALEPH|FINAL ALEPH|BETH|FINAL BETH",
  "10F04 OLD SOGDIAN LETTER:GIMEL|HE|FINAL HE|WAW|ZAYIN|HETH|YODH|KAPH|LAMEDH|MEM|NUN|FINAL NUN",
  "10F10 OLD SOGDIAN LETTER:FINAL NUN WITH VERTICAL TAIL|SAMEKH|AYIN|ALTERNATE AYIN|PE|SADHE",
  "10F16 OLD SOGDIAN LETTER FINAL:SADHE|SADHE WITH VERTICAL TAIL",
  "10F18 OLD SOGDIAN LETTER:RESH-AYIN-DALETH|SHIN|TAW|FINAL TAW|FINAL TAW WITH VERTICAL TAIL",
  "10F1D OLD SOGDIAN NUMBER:ONE|TWO|THREE|FOUR|FIVE|TEN|TWENTY|THIRTY|ONE HUNDRED",
  "10F26 OLD SOGDIAN:FRACTION ONE HALF|LIGATURE AYIN-DALETH",
  "10F30 SOGDIAN LETTER:ALEPH|BETH|GIMEL|HE|WAW|ZAYIN|HETH",
  "10F37 SOGDIAN LETTER:YODH|KAPH|LAMEDH|MEM|NUN|SAMEKH|AYIN|PE|SADHE|RESH-AYIN|SHIN|TAW|FETH|LESH",
  "10F45 SOGDIAN:INDEPENDENT SHIN|COMBINING DOT BELOW",
  "10F47 SOGDIAN COMBINING:TWO DOTS BELOW|DOT ABOVE|TWO DOTS ABOVE|CURVE ABOVE|CURVE BELOW",
  "10F4C SOGDIAN COMBINING:HOOK ABOVE|HOOK BELOW|LONG HOOK BELOW|RESH BELOW|STROKE BELOW",
  "10F51 SOGDIAN NUMBER:ONE|TEN|TWENTY|ONE HUNDRED",
  "10F55 SOGDIAN PUNCTUATION TWO VERTICAL:BARS|BARS WITH DOTS",
  "10F57 SOGDIAN PUNCTUATION:CIRCLE WITH DOT|TWO CIRCLES WITH DOTS|HALF CIRCLE WITH DOT",
  "10F70 OLD UYGHUR LETTER:ALEPH|BETH|GIMEL-HETH|WAW|ZAYIN",
  "10F75 OLD UYGHUR LETTER:FINAL HETH|YODH|KAPH|LAMEDH|MEM|NUN|SAMEKH|PE|SADHE|RESH|SHIN|TAW|LESH",
  "10F82 OLD UYGHUR COMBINING:DOT ABOVE|DOT BELOW|TWO DOTS ABOVE|TWO DOTS BELOW",
  "10F86 OLD UYGHUR PUNCTUATION:BAR|TWO BARS|TWO DOTS|FOUR DOTS",
  "10FB0 CHORASMIAN LETTER:ALEPH|SMALL ALEPH|BETH|GIMEL|DALETH|HE|WAW|CURLED WAW",
  "10FB8 CHORASMIAN LETTER:ZAYIN|HETH|YODH|KAPH|LAMEDH|MEM|NUN|SAMEKH|AYIN|PE|RESH|SHIN|TAW",
  "10FC5 CHORASMIAN NUMBER:ONE|TWO|THREE|FOUR|TEN|TWENTY|ONE HUNDRED",
  "10FE0 ELYMAIC LETTER:ALEPH|BETH|GIMEL|DALETH|HE|WAW|ZAYIN",
  "10FE7 ELYMAIC LETTER:HETH|TETH|YODH|KAPH|LAMEDH|MEM|NUN|SAMEKH|AYIN|PE|SADHE|QOPH|RESH|SHIN|TAW",
  "10FF6 ELYMAIC LIGATURE:ZAYIN-YODH",
  "11000 BRAHMI SIGN:CANDRABINDU|ANUSVARA|VISARGA|JIHVAMULIYA|UPADHMANIYA",
  "11005 BRAHMI LETTER:A|AA|I|II|U|UU",
  "1100B BRAHMI LETTER VOCALIC:R|RR|L|LL",
  "1100F BRAHMI LETTER:E|AI|O|AU|KA|KHA|GA|GHA|NGA|CA|CHA|JA|JHA|NYA|TTA|TTHA|DDA",
  "11020 BRAHMI LETTER:DDHA|NNA|TA|THA|DA|DHA|NA|PA|PHA|BA|BHA|MA|YA|RA|LA|VA|SHA|SSA|SA|HA|LLA",
  "11035 BRAHMI LETTER OLD TAMIL:LLLA|RRA|NNNA",
  "11038 BRAHMI VOWEL SIGN:AA|BHATTIPROLU AA",
  "1103A BRAHMI VOWEL SIGN:I|II|U|UU|VOCALIC R|VOCALIC RR|VOCALIC L|VOCALIC LL|E|AI|O|AU",
  "11046 BRAHMI:VIRAMA|DANDA|DOUBLE DANDA",
  "11049 BRAHMI PUNCTUATION:DOT|DOUBLE DOT|LINE|CRESCENT BAR|LOTUS",
  "11052 BRAHMI NUMBER:ONE|TWO|THREE|FOUR|FIVE|SIX|SEVEN|EIGHT|NINE|TEN|TWENTY",
  "1105D BRAHMI NUMBER:THIRTY|FORTY|FIFTY|SIXTY|SEVENTY|EIGHTY|NINETY|ONE HUNDRED|ONE THOUSAND",
  "11066 BRAHMI DIGIT:ZERO|ONE|TWO|THREE|FOUR|FIVE|SIX|SEVEN|EIGHT|NINE",
  "11070 BRAHMI SIGN OLD TAMIL:VIRAMA",
  "11071 BRAHMI LETTER OLD TAMIL SHORT:E|O",
  "11073 BRAHMI VOWEL SIGN OLD TAMIL SHORT:E|O",
  "11075 BRAHMI LETTER OLD TAMIL:LLA",
  "1107F BRAHMI NUMBER:JOINER",
  "11080 KAITHI SIGN:CANDRABINDU|ANUSVARA|VISARGA",
  "11083 KAITHI LETTER:A|AA",
  "11085 KAITHI LETTER:I|II|U|UU|E|AI|O|AU|KA|KHA|GA|GHA|NGA|CA|CHA|JA|JHA|NYA|TTA|TTHA|DDA|DDDHA",
  "1109B KAITHI LETTER:DDHA|RHA|NNA|TA|THA|DA|DHA|NA|PA|PHA|BA|BHA|MA|YA|RA|LA|VA|SHA|SSA|SA|HA",
  "110B0 KAITHI VOWEL SIGN:AA|I|II|U|UU|E|AI|O|AU",
  "110B9 KAITHI:SIGN VIRAMA|SIGN NUKTA|ABBREVIATION SIGN|ENUMERATION SIGN|NUMBER SIGN",
  "110BE KAITHI:SECTION MARK|DOUBLE SECTION MARK|DANDA|DOUBLE DANDA|VOWEL SIGN VOCALIC R",
  "110CD KAITHI NUMBER SIGN:ABOVE",
  "110D0 SORA SOMPENG LETTER:SAH|TAH|BAH|CAH|DAH|GAH|MAH",
  "110D7 SORA SOMPENG LETTER:NGAH|LAH|NAH|VAH|PAH|YAH|RAH|HAH|KAH|JAH|NYAH|AH|EEH|IH|UH|OH|EH|MAE",
  "110F0 SORA SOMPENG DIGIT:ZERO|ONE|TWO|THREE|FOUR|FIVE|SIX|SEVEN|EIGHT|NINE",
  "11100 CHAKMA SIGN:CANDRABINDU|ANUSVARA|VISARGA",
  "11103 CHAKMA LETTER:AA|I|U",
  "11106 CHAKMA LETTER:E|KAA|KHAA|GAA|GHAA|NGAA|CAA|CHAA|JAA|JHAA|NYAA|TTAA|TTHAA|DDAA|DDHAA|NNAA",
  "11116 CHAKMA LETTER:TAA|THAA|DAA|DHAA|NAA|PAA|PHAA|BAA|BHAA|MAA|YYAA|YAA|RAA|LAA|WAA|SAA|HAA",
  "11127 CHAKMA VOWEL SIGN:A|I|II|U|UU|E|AI|O|AU|OI",
  "11131 CHAKMA:O MARK|AU MARK|VIRAMA|MAAYYAA",
  "11136 CHAKMA DIGIT:ZERO|ONE|TWO|THREE|FOUR|FIVE|SIX|SEVEN|EIGHT|NINE",
  "11140 CHAKMA:SECTION MARK|DANDA",
  "11142 CHAKMA:DOUBLE DANDA|QUESTION MARK|LETTER LHAA|VOWEL SIGN AA|VOWEL SIGN EI|LETTER VAA",
  "11150 MAHAJANI LETTER:A|I|U|E|O|KA|KHA|GA|GHA|CA|CHA|JA|JHA|NYA|TTA",
  "1115F MAHAJANI LETTER:TTHA|DDA|DDHA|NNA|TA|THA|DA|DHA|NA|PA|PHA|BA|BHA|MA|RA|LA|VA|SA|HA|RRA",
  "11173 MAHAJANI:SIGN NUKTA|ABBREVIATION SIGN|SECTION MARK|LIGATURE SHRI",
  "11180 SHARADA SIGN:CANDRABINDU|ANUSVARA|VISARGA",
  "11183 SHARADA LETTER:A|AA|I|II|U|UU",
  "11189 SHARADA LETTER VOCALIC:R|RR|L|LL",
  "1118D SHARADA LETTER:E|AI|O|AU|KA|KHA|GA|GHA|NGA|CA|CHA|JA|JHA|NYA|TTA|TTHA|DDA",
  "1119E SHARADA LETTER:DDHA|NNA|TA|THA|DA|DHA|NA|PA|PHA|BA|BHA|MA|YA|RA|LA|LLA|VA|SHA|SSA|SA|HA",
  "111B3 SHARADA VOWEL SIGN:AA|I|II|U|UU|VOCALIC R|VOCALIC RR|VOCALIC L|VOCALIC LL|E|AI|O|AU",
  "111C0 SHARADA SIGN:VIRAMA|AVAGRAHA|JIHVAMULIYA|UPADHMANIYA",
  "111C4 SHARADA:OM|DANDA|DOUBLE DANDA|ABBREVIATION SIGN",
  "111C8 SHARADA:SEPARATOR|SANDHI MARK|SIGN NUKTA|VOWEL MODIFIER MARK|EXTRA SHORT VOWEL MARK",
  "111CD SHARADA:SUTRA MARK|VOWEL SIGN PRISHTHAMATRA E|SIGN INVERTED CANDRABINDU",
  "111D0 SHARADA DIGIT:ZERO|ONE|TWO|THREE|FOUR|FIVE|SIX|SEVEN|EIGHT|NINE",
  "111DA SHARADA:EKAM|SIGN SIDDHAM|HEADSTROKE|CONTINUATION SIGN|SECTION MARK-1|SECTION MARK-2",
  "111E1 SINHALA ARCHAIC DIGIT:ONE|TWO|THREE|FOUR|FIVE|SIX|SEVEN|EIGHT|NINE",
  "111EA SINHALA ARCHAIC NUMBER:TEN|TWENTY|THIRTY|FORTY|FIFTY|SIXTY|SEVENTY|EIGHTY|NINETY",
  "111F3 SINHALA ARCHAIC NUMBER ONE:HUNDRED|THOUSAND",
  "11200 KHOJKI LETTER:A|AA|I|U|E|AI|O|AU|KA|KHA|GA|GGA|GHA|NGA|CA|CHA|JA|JJA",
  "11213 KHOJKI LETTER:NYA|TTA|TTHA|DDA",
  "11217 KHOJKI LETTER:DDHA|NNA|TA|THA|DA|DDDA|DHA|NA|PA|PHA|BA|BBA|BHA|MA|YA|RA|LA|VA|SA|HA|LLA",
  "1122C KHOJKI VOWEL SIGN:AA|I|II|U|E|AI|O|AU",
  "11234 KHOJKI SIGN:ANUSVARA|VIRAMA|NUKTA|SHADDA",
  "11238 KHOJKI:DANDA|DOUBLE DANDA",
  "1123A KHOJKI:WORD SEPARATOR|SECTION MARK|DOUBLE SECTION MARK|ABBREVIATION SIGN|SIGN SUKUN",
  "11280 MULTANI LETTER:A|I|U|E|KA|KHA|GA",
  "11288 MULTANI LETTER:GHA",
  "1128A MULTANI LETTER:CA|CHA|JA|JJA",
  "1128F MULTANI LETTER:NYA|TTA|TTHA|DDA|DDDA|DDHA|NNA|TA|THA|DA|DHA|NA|PA|PHA|BA",
  "1129F MULTANI LETTER:BHA|MA|YA|RA|LA|VA|SA|HA|RRA|RHA",
  "112A9 MULTANI SECTION:MARK",
  "112B0 KHUDAWADI LETTER:A|AA|I|II|U|UU",
  "112B6 KHUDAWADI LETTER:E|AI|O|AU|KA|KHA|GA|GGA|GHA|NGA|CA|CHA|JA|JJA|JHA|NYA|TTA|TTHA|DDA|DDDA",
  "112CA KHUDAWADI LETTER:RRA|DDHA|NNA|TA|THA|DA|DHA|NA|PA|PHA|BA|BBA|BHA|MA|YA|RA|LA|VA|SHA|SA|HA",
  "112DF KHUDAWADI SIGN:ANUSVARA",
  "112E0 KHUDAWADI VOWEL SIGN:AA|I|II|U|UU|E|AI|O|AU",
  "112E9 KHUDAWADI SIGN:NUKTA|VIRAMA",
  "112F0 KHUDAWADI DIGIT:ZERO|ONE|TWO|THREE|FOUR|FIVE|SIX|SEVEN|EIGHT|NINE",
  "11300 GRANTHA SIGN:COMBINING ANUSVARA ABOVE|CANDRABINDU|ANUSVARA|VISARGA",
  "11305 GRANTHA LETTER:A|AA|I|II|U|UU|VOCALIC R|VOCALIC L",
  "1130F GRANTHA LETTER:EE|AI",
  "11313 GRANTHA LETTER:OO|AU",
  "11315 GRANTHA LETTER:KA|KHA|GA|GHA|NGA|CA|CHA|JA|JHA|NYA|TTA|TTHA|DDA|DDHA|NNA|TA|THA|DA|DHA|NA",
  "1132A GRANTHA LETTER:PA|PHA|BA|BHA|MA|YA|RA",
  "11332 GRANTHA LETTER:LA|LLA",
  "11335 GRANTHA LETTER:VA|SHA|SSA|SA|HA",
  "1133B COMBINING BINDU:BELOW",
  "1133C GRANTHA SIGN:NUKTA|AVAGRAHA",
  "1133E GRANTHA VOWEL SIGN:AA|I|II|U|UU|VOCALIC R|VOCALIC RR",
  "11347 GRANTHA VOWEL SIGN:EE|AI",
  "1134B GRANTHA:VOWEL SIGN OO|VOWEL SIGN AU|SIGN VIRAMA",
  "11350 GRANTHA:OM",
  "11357 GRANTHA AU LENGTH:MARK",
  "1135D GRANTHA SIGN:PLUTA",
  "1135E GRANTHA LETTER:VEDIC ANUSVARA|VEDIC DOUBLE ANUSVARA|VOCALIC RR|VOCALIC LL",
  "11362 GRANTHA VOWEL SIGN VOCALIC:L|LL",
  "11366 COMBINING GRANTHA DIGIT:ZERO|ONE|TWO|THREE|FOUR|FIVE|SIX",
  "11370 COMBINING GRANTHA LETTER:A|KA|NA|VI|PA",
  "11400 NEWA LETTER:A|AA|I|II|U|UU",
  "11406 NEWA LETTER VOCALIC:R|RR|L|LL",
  "1140A NEWA LETTER:E|AI|O|AU|KA|KHA|GA|GHA|NGA|NGHA|CA|CHA|JA|JHA|NYA|NYHA|TTA|TTHA|DDA|DDHA|NNA",
  "1141F NEWA LETTER:TA|THA|DA|DHA|NA|NHA|PA|PHA|BA|BHA|MA|MHA|YA|RA|RHA|LA|LHA|WA|SHA|SSA|SA|HA",
  "11435 NEWA VOWEL SIGN:AA|I|II|U|UU|VOCALIC R|VOCALIC RR|VOCALIC L|VOCALIC LL|E|AI|O|AU",
  "11442 NEWA SIGN:VIRAMA|CANDRABINDU|ANUSVARA|VISARGA|NUKTA|AVAGRAHA|FINAL ANUSVARA",
  "11449 NEWA:OM|SIDDHI|DANDA|DOUBLE DANDA|COMMA|GAP FILLER|ABBREVIATION SIGN",
  "11450 NEWA DIGIT:ZERO|ONE|TWO|THREE|FOUR|FIVE|SIX|SEVEN|EIGHT|NINE",
  "1145A NEWA:DOUBLE COMMA|PLACEHOLDER MARK",
  "1145D NEWA:INSERTION SIGN|SANDHI MARK|LETTER VEDIC ANUSVARA|SIGN JIHVAMULIYA|SIGN UPADHMANIYA",
  "11480 TIRHUTA:ANJI",
  "11481 TIRHUTA LETTER:A|AA|I|II|U|UU",
  "11487 TIRHUTA LETTER VOCALIC:R|RR|L|LL",
  "1148B TIRHUTA LETTER:E|AI|O|AU|KA|KHA|GA|GHA|NGA|CA|CHA|JA|JHA|NYA|TTA|TTHA",
  "1149B TIRHUTA LETTER:DDA|DDHA|NNA|TA|THA|DA|DHA|NA|PA|PHA|BA|BHA|MA|YA|RA|LA|VA|SHA|SSA|SA|HA",
  "114B0 TIRHUTA VOWEL SIGN:AA|I|II|U",
  "114B4 TIRHUTA VOWEL SIGN:UU|VOCALIC R|VOCALIC RR|VOCALIC L|VOCALIC LL|E|SHORT E|AI|O|SHORT O|AU",
  "114BF TIRHUTA SIGN:CANDRABINDU|ANUSVARA|VISARGA|VIRAMA|NUKTA|AVAGRAHA",
  "114C5 TIRHUTA:GVANG|ABBREVIATION SIGN|OM",
  "114D0 TIRHUTA DIGIT:ZERO|ONE|TWO|THREE|FOUR|FIVE|SIX|SEVEN|EIGHT|NINE",
  "11580 SIDDHAM LETTER:A|AA|I|II|U|UU",
  "11586 SIDDHAM LETTER VOCALIC:R|RR|L|LL",
  "1158A SIDDHAM LETTER:E|AI|O|AU|KA|KHA|GA|GHA|NGA|CA|CHA|JA|JHA|NYA|TTA|TTHA",
  "1159A SIDDHAM LETTER:DDA|DDHA|NNA|TA|THA|DA|DHA|NA|PA|PHA|BA|BHA|MA|YA|RA|LA|VA|SHA|SSA|SA|HA",
  "115AF SIDDHAM VOWEL SIGN:AA|I|II|U|UU|VOCALIC R|VOCALIC RR",
  "115B8 SIDDHAM VOWEL SIGN:E|AI|O|AU",
  "115BC SIDDHAM SIGN:CANDRABINDU|ANUSVARA|VISARGA|VIRAMA|NUKTA|SIDDHAM",
  "115C2 SIDDHAM:DANDA|DOUBLE DANDA|SEPARATOR DOT|SEPARATOR BAR",
  "115C6 SIDDHAM REPETITION:MARK-1|MARK-2|MARK-3",
  "115C9 SIDDHAM END OF TEXT:MARK",
  "115CA SIDDHAM SECTION MARK WITH TRIDENT AND:U-SHAPED ORNAMENTS|DOTTED CRESCENTS",
  "115CC SIDDHAM SECTION MARK WITH RAYS AND DOTTED:CRESCENTS|DOUBLE CRESCENTS|TRIPLE CRESCENTS",
  "115CF SIDDHAM SECTION MARK:DOUBLE RING|DOUBLE RING WITH RAYS|WITH DOUBLE CRESCENTS",
  "115D2 SIDDHAM SECTION MARK WITH:TRIPLE CRESCENTS|QUADRUPLE CRESCENTS|SEPTUPLE CRESCENTS",
  "115D5 SIDDHAM SECTION MARK WITH CIRCLES AND:RAYS|TWO ENCLOSURES|FOUR ENCLOSURES",
  "115D8 SIDDHAM LETTER THREE-CIRCLE ALTERNATE:I",
  "115D9 SIDDHAM LETTER:TWO-CIRCLE ALTERNATE I|TWO-CIRCLE ALTERNATE II|ALTERNATE U",
  "115DC SIDDHAM VOWEL SIGN ALTERNATE:U|UU",
  "11600 MODI LETTER:A|AA|I|II|U|UU",
  "11606 MODI LETTER VOCALIC:R|RR|L|LL",
  "1160A MODI LETTER:E|AI|O|AU|KA|KHA|GA|GHA|NGA|CA|CHA|JA|JHA|NYA|TTA|TTHA",
  "1161A MODI LETTER:DDA|DDHA|NNA|TA|THA|DA|DHA|NA|PA|PHA|BA|BHA|MA|YA|RA|LA|VA|SHA|SSA|SA|HA|LLA",
  "11630 MODI VOWEL SIGN:AA|I|II|U|UU|VOCALIC R|VOCALIC RR|VOCALIC L|VOCALIC LL|E|AI|O|AU",
  "1163D MODI SIGN:ANUSVARA|VISARGA|VIRAMA|ARDHACANDRA",
  "11641 MODI:DANDA|DOUBLE DANDA|ABBREVIATION SIGN|SIGN HUVA",
  "11650 MODI DIGIT:ZERO|ONE|TWO|THREE|FOUR|FIVE|SIX|SEVEN|EIGHT|NINE",
  "11660 MONGOLIAN:BIRGA WITH ORNAMENT|ROTATED BIRGA|DOUBLE BIRGA WITH ORNAMENT",
  "11663 MONGOLIAN:TRIPLE BIRGA WITH ORNAMENT|BIRGA WITH DOUBLE ORNAMENT",
  "11665 MONGOLIAN ROTATED BIRGA WITH:ORNAMENT|DOUBLE ORNAMENT",
  "11667 MONGOLIAN INVERTED:BIRGA|BIRGA WITH DOUBLE ORNAMENT",
  "11669 MONGOLIAN SWIRL:BIRGA|BIRGA WITH ORNAMENT|BIRGA WITH DOUBLE ORNAMENT",
  "1166C MONGOLIAN TURNED SWIRL BIRGA WITH DOUBLE:ORNAMENT",
  "11680 TAKRI LETTER:A|AA|I|II|U|UU|E|AI|O|AU|KA|KHA|GA|GHA|NGA|CA|CHA|JA|JHA|NYA|TTA|TTHA",
  "11696 TAKRI LETTER:DDA|DDHA|NNA|TA|THA|DA|DHA|NA|PA|PHA|BA|BHA|MA|YA|RA|LA|VA|SHA|SA|HA|RRA",
  "116AB TAKRI SIGN:ANUSVARA|VISARGA",
  "116AD TAKRI VOWEL SIGN:AA|I|II|U|UU|E|AI|O|AU",
  "116B6 TAKRI:SIGN VIRAMA|SIGN NUKTA|LETTER ARCHAIC KHA|ABBREVIATION SIGN",
  "116C0 TAKRI DIGIT:ZERO|ONE|TWO|THREE|FOUR|FIVE|SIX|SEVEN|EIGHT|NINE",
  "11700 AHOM LETTER:KA|KHA|NGA|NA|TA|ALTERNATE TA|PA|PHA|BA|MA",
  "1170A AHOM LETTER:JA|CHA|THA|RA|LA|SA|NYA|HA|A|DA|DHA|GA|ALTERNATE GA|GHA|BHA|JHA|ALTERNATE BA",
  "1171D AHOM CONSONANT SIGN MEDIAL:LA|RA|LIGATING RA",
  "11720 AHOM VOWEL SIGN:A|AA|I|II|U|UU|E|AW|O|AI|AM",
  "1172B AHOM SIGN:KILLER",
  "11730 AHOM DIGIT:ZERO|ONE|TWO|THREE|FOUR|FIVE|SIX|SEVEN|EIGHT|NINE",
  "1173A AHOM:NUMBER TEN|NUMBER TWENTY|SIGN SMALL SECTION|SIGN SECTION|SIGN RULAI|SYMBOL VI",
  "11740 AHOM LETTER:CA|TTA|TTHA|DDA|DDHA|NNA|LLA",
  "11800 DOGRA LETTER:A|AA|I|II|U|UU|E|AI|O|AU|KA|KHA|GA|GHA|NGA|CA|CHA|JA|JHA|NYA|TTA|TTHA",
  "11816 DOGRA LETTER:DDA|DDHA|NNA|TA|THA|DA|DHA|NA|PA|PHA|BA|BHA|MA|YA|RA|LA|VA|SHA|SSA|SA|HA|RRA",
  "1182C DOGRA VOWEL SIGN:AA|I|II|U|UU|VOCALIC R|VOCALIC RR|E|AI|O|AU",
  "11837 DOGRA SIGN:ANUSVARA|VISARGA|VIRAMA|NUKTA",
  "1183B DOGRA ABBREVIATION:SIGN",
  "118A0 WARANG CITI CAPITAL LETTER:NGAA|A|WI|YU|YA|YO|II|UU|E|O|ANG|GA|KO|ENY|YUJ|UC|ENN",
  "118B1 WARANG CITI CAPITAL LETTER:ODD|TTE|NUNG|DA|AT|AM|BU|PU|HIYO|HOLO|HORR|HAR|SSUU|SII|VIYO",
  "118C0 WARANG CITI SMALL LETTER:NGAA|A|WI|YU|YA|YO|II|UU|E|O|ANG|GA|KO|ENY|YUJ|UC",
  "118D0 WARANG CITI SMALL LETTER:ENN|ODD|TTE|NUNG|DA|AT|AM|BU|PU|HIYO|HOLO|HORR|HAR|SSUU|SII|VIYO",
  "118E0 WARANG CITI DIGIT:ZERO|ONE|TWO|THREE|FOUR|FIVE|SIX|SEVEN|EIGHT|NINE",
  "118EA WARANG CITI NUMBER:TEN|TWENTY|THIRTY|FORTY|FIFTY|SIXTY|SEVENTY|EIGHTY|NINETY",
  "118FF WARANG CITI:OM",
  "11900 DIVES AKURU LETTER:A|AA|I|II|U|UU|E",
  "11909 DIVES AKURU LETTER:O",
  "1190C DIVES AKURU LETTER:KA|KHA|GA|GHA|NGA|CA|CHA|JA",
  "11915 DIVES AKURU LETTER:NYA|TTA",
  "11918 DIVES AKURU LETTER:DDA|DDHA|NNA",
  "1191B DIVES AKURU LETTER:TA|THA|DA|DHA|NA|PA|PHA|BA|BHA|MA|YA|YYA|RA|LA|VA|SHA|SSA|SA|HA|LLA|ZA",
  "11930 DIVES AKURU VOWEL SIGN:AA|I|II|U|UU|E",
  "11937 DIVES AKURU VOWEL SIGN:AI|O",
  "1193B DIVES AKURU SIGN:ANUSVARA|CANDRABINDU|HALANTA",
  "1193E DIVES AKURU:VIRAMA|PREFIXED NASAL SIGN|MEDIAL YA",
  "11941 DIVES AKURU:INITIAL RA|MEDIAL RA|SIGN NUKTA|DOUBLE DANDA|GAP FILLER|END OF TEXT MARK",
  "11950 DIVES AKURU DIGIT:ZERO|ONE|TWO|THREE|FOUR|FIVE|SIX|SEVEN|EIGHT|NINE",
  "119A0 NANDINAGARI LETTER:A|AA|I|II|U|UU|VOCALIC R|VOCALIC RR",
  "119AA NANDINAGARI LETTER:E|AI|O|AU|KA|KHA|GA|GHA|NGA|CA|CHA|JA|JHA|NYA|TTA|TTHA|DDA|DDHA|NNA",
  "119BD NANDINAGARI LETTER:TA|THA|DA|DHA|NA|PA|PHA|BA|BHA|MA|YA|RA|LA|VA|SHA|SSA|SA|HA|LLA|RRA",
  "119D1 NANDINAGARI VOWEL SIGN:AA|I|II|U|UU|VOCALIC R|VOCALIC RR",
  "119DA NANDINAGARI VOWEL SIGN:E|AI|O|AU",
  "119DE NANDINAGARI SIGN:ANUSVARA|VISARGA|VIRAMA|AVAGRAHA|SIDDHAM",
  "119E3 NANDINAGARI:HEADSTROKE|VOWEL SIGN PRISHTHAMATRA E",
  "11A00 ZANABAZAR SQUARE LETTER:A",
  "11A01 ZANABAZAR SQUARE VOWEL SIGN:I|UE|U|E|OE|O|AI|AU|REVERSED I",
  "11A0A ZANABAZAR SQUARE VOWEL LENGTH:MARK",
  "11A0B ZANABAZAR SQUARE LETTER:KA|KHA|GA|GHA|NGA",
  "11A10 ZANABAZAR SQUARE LETTER:CA|CHA|JA|NYA|TTA|TTHA|DDA|DDHA|NNA|TA|THA|DA|DHA|NA|PA|PHA|BA",
  "11A21 ZANABAZAR SQUARE LETTER:BHA|MA|TSA|TSHA|DZA|DZHA|ZHA|ZA|-A|YA|RA|LA|VA|SHA|SSA|SA|HA|KSSA",
  "11A33 ZANABAZAR SQUARE FINAL CONSONANT:MARK",
  "11A34 ZANABAZAR SQUARE SIGN:VIRAMA|CANDRABINDU|CANDRABINDU WITH ORNAMENT|CANDRA WITH ORNAMENT",
  "11A38 ZANABAZAR SQUARE:SIGN ANUSVARA|SIGN VISARGA|CLUSTER-INITIAL LETTER RA",
  "11A3B ZANABAZAR SQUARE CLUSTER-FINAL LETTER:YA|RA|LA|VA",
  "11A3F ZANABAZAR SQUARE:INITIAL HEAD MARK|CLOSING HEAD MARK",
  "11A41 ZANABAZAR SQUARE MARK:TSHEG|SHAD|DOUBLE SHAD|LONG TSHEG",
  "11A45 ZANABAZAR SQUARE:INITIAL DOUBLE-LINED HEAD MARK|CLOSING DOUBLE-LINED HEAD MARK|SUBJOINER",
  "11A50 SOYOMBO LETTER:A",
  "11A51 SOYOMBO VOWEL SIGN:I|UE|U|E|O|OE|AI|AU|VOCALIC R|VOCALIC L",
  "11A5B SOYOMBO VOWEL LENGTH:MARK",
  "11A5C SOYOMBO LETTER:KA|KHA|GA|GHA|NGA|CA|CHA|JA|JHA|NYA|TTA|TTHA|DDA|DDHA|NNA|TA|THA|DA|DHA",
  "11A6F SOYOMBO LETTER:NA|PA|PHA|BA|BHA|MA|TSA|TSHA|DZA|ZHA|ZA|-A|YA|RA|LA|VA|SHA|SSA|SA|HA|KSSA",
  "11A84 SOYOMBO SIGN:JIHVAMULIYA|UPADHMANIYA",
  "11A86 SOYOMBO CLUSTER-INITIAL LETTER:RA|LA|SHA|SA",
  "11A8A SOYOMBO FINAL CONSONANT SIGN:G|K|NG|D|N|B|M|R|L|SH|S|-A",
  "11A96 SOYOMBO:SIGN ANUSVARA|SIGN VISARGA|GEMINATION MARK|SUBJOINER",
  "11A9A SOYOMBO MARK:TSHEG|SHAD|DOUBLE SHAD|PLUTA",
  "11A9E SOYOMBO HEAD MARK WITH MOON AND:SUN AND TRIPLE FLAME|SUN AND FLAME|SUN",
  "11AA1 SOYOMBO TERMINAL:MARK-1|MARK-2",
  "11AB0 CANADIAN SYLLABICS NATTILIK:HI|HII|HO|HOO|HA|HAA|SHRI|SHRII|SHRO|SHROO|SHRA|SHRAA",
  "11ABC CANADIAN SYLLABICS:SPE|SPI|SPO|SPA",
  "11AC0 PAU CIN HAU LETTER:PA|KA|LA|MA|DA",
  "11AC5 PAU CIN HAU LETTER:ZA|VA|NGA|HA|GA|KHA|SA|BA|CA|TA|THA|NA|PHA|RA|FA|CHA|A|E|I|O|U|UA|IA",
  "11ADC PAU CIN HAU LETTER FINAL:P|K|T|M|N|L|W|NG|Y",
  "11AE5 PAU CIN HAU:RISING TONE LONG|RISING TONE|SANDHI GLOTTAL STOP",
  "11AE8 PAU CIN HAU RISING TONE:LONG FINAL|FINAL",
  "11AEA PAU CIN HAU SANDHI:GLOTTAL STOP FINAL|TONE LONG|TONE|TONE LONG FINAL|TONE FINAL",
  "11AEF PAU CIN HAU:MID-LEVEL TONE|GLOTTAL STOP VARIANT|MID-LEVEL TONE LONG FINAL",
  "11AF2 PAU CIN HAU:MID-LEVEL TONE FINAL|LOW-FALLING TONE LONG|LOW-FALLING TONE|GLOTTAL STOP",
  "11AF6 PAU CIN HAU:LOW-FALLING TONE LONG FINAL|LOW-FALLING TONE FINAL|GLOTTAL STOP FINAL",
  "11C00 BHAIKSUKI LETTER:A|AA|I|II|U|UU|VOCALIC R|VOCALIC RR|VOCALIC L",
  "11C0A BHAIKSUKI LETTER:E|AI|O|AU|KA|KHA|GA|GHA|NGA|CA|CHA|JA|JHA|NYA|TTA|TTHA",
  "11C1A BHAIKSUKI LETTER:DDA|DDHA|NNA|TA|THA|DA|DHA|NA|PA|PHA|BA|BHA|MA|YA|RA|LA|VA|SHA|SSA|SA|HA",
  "11C2F BHAIKSUKI VOWEL SIGN:AA|I|II|U|UU|VOCALIC R|VOCALIC RR|VOCALIC L",
  "11C38 BHAIKSUKI VOWEL SIGN:E|AI|O|AU",
  "11C3C BHAIKSUKI SIGN:CANDRABINDU|ANUSVARA|VISARGA|VIRAMA|AVAGRAHA",
  "11C41 BHAIKSUKI:DANDA|DOUBLE DANDA|WORD SEPARATOR|GAP FILLER-1|GAP FILLER-2",
  "11C50 BHAIKSUKI DIGIT:ZERO|ONE|TWO|THREE|FOUR|FIVE|SIX|SEVEN|EIGHT|NINE",
  "11C5A BHAIKSUKI NUMBER:ONE|TWO|THREE|FOUR|FIVE|SIX|SEVEN",
  "11C61 BHAIKSUKI NUMBER:EIGHT|NINE|TEN|TWENTY|THIRTY|FORTY|FIFTY|SIXTY|SEVENTY|EIGHTY|NINETY",
  "11C6C BHAIKSUKI HUNDREDS UNIT:MARK",
  "11C70 MARCHEN:HEAD MARK|MARK SHAD",
  "11C72 MARCHEN LETTER:KA|KHA|GA|NGA|CA|CHA|JA|NYA",
  "11C7A MARCHEN LETTER:TA|THA|DA|NA|PA|PHA|BA|MA|TSA|TSHA|DZA|WA|ZHA|ZA|-A|YA|RA|LA|SHA|SA|HA|A",
  "11C92 MARCHEN SUBJOINED LETTER:KA|KHA|GA|NGA",
  "11C96 MARCHEN SUBJOINED LETTER:CA|CHA|JA|NYA|TA|THA|DA|NA|PA|PHA|BA|MA|TSA|TSHA|DZA|WA|ZHA|ZA",
  "11CA9 MARCHEN SUBJOINED LETTER:YA|RA|LA|SHA|SA|HA|A",
  "11CB0 MARCHEN VOWEL SIGN:AA|I|U|E|O",
  "11CB5 MARCHEN SIGN:ANUSVARA|CANDRABINDU",
  "11D00 MASARAM GONDI LETTER:A|AA|I|II|U|UU|E",
  "11D08 MASARAM GONDI LETTER:AI|O",
  "11D0B MASARAM GONDI LETTER:AU",
  "11D0C MASARAM GONDI LETTER:KA|KHA|GA|GHA|NGA|CA|CHA|JA|JHA|NYA|TTA|TTHA|DDA|DDHA|NNA|TA|THA|DA",
  "11D1E MASARAM GONDI LETTER:DHA|NA|PA|PHA|BA|BHA|MA|YA|RA|LA|VA|SHA|SSA|SA|HA|LLA|KSSA|JNYA|TRA",
  "11D31 MASARAM GONDI VOWEL SIGN:AA|I|II|U|UU|VOCALIC R",
  "11D3A MASARAM GONDI VOWEL SIGN:E",
  "11D3C MASARAM GONDI VOWEL SIGN:AI|O",
  "11D3F MASARAM GONDI:VOWEL SIGN AU|SIGN ANUSVARA",
  "11D41 MASARAM GONDI:SIGN VISARGA|SIGN NUKTA|SIGN CANDRA|SIGN HALANTA|VIRAMA|REPHA|RA-KARA",
  "11D50 MASARAM GONDI DIGIT:ZERO|ONE|TWO|THREE|FOUR|FIVE|SIX|SEVEN|EIGHT|NINE",
  "11D60 GUNJALA GONDI LETTER:A|AA|I|II|U|UU",
  "11D67 GUNJALA GONDI LETTER:EE|AI",
  "11D6A GUNJALA GONDI LETTER:OO|AU|YA|VA|BA|BHA|MA|KA|KHA|TA|THA|LA|GA|GHA",
  "11D78 GUNJALA GONDI LETTER:DA|DHA|NA|CA|CHA|TTA|TTHA|LLA|JA|JHA|DDA|DDHA|NGA|PA|PHA|HA|RA|SA",
  "11D8A GUNJALA GONDI VOWEL SIGN:AA|I|II|U|UU",
  "11D90 GUNJALA GONDI VOWEL SIGN:EE|AI",
  "11D93 GUNJALA GONDI:VOWEL SIGN OO|VOWEL SIGN AU|SIGN ANUSVARA|SIGN VISARGA|VIRAMA|OM",
  "11DA0 GUNJALA GONDI DIGIT:ZERO|ONE|TWO|THREE|FOUR|FIVE|SIX|SEVEN|EIGHT|NINE",
  "11EE0 MAKASAR LETTER:KA|GA|NGA|PA|BA|MA|TA|DA|NA|CA|JA|NYA|YA|RA|LA|VA|SA|A",
  "11EF2 MAKASAR:ANGKA",
  "11EF3 MAKASAR VOWEL SIGN:I|U|E|O",
  "11EF7 MAKASAR:PASSIMBANG|END OF SECTION",
  "11FB0 LISU LETTER:YHA",
  "11FC0 TAMIL FRACTION ONE:THREE-HUNDRED-AND-TWENTIETH",
  "11FC1 TAMIL FRACTION ONE:ONE-HUNDRED-AND-SIXTIETH|EIGHTIETH|SIXTY-FOURTH|FORTIETH|THIRTY-SECOND",
  "11FC6 TAMIL FRACTION THREE:EIGHTIETHS|SIXTY-FOURTHS",
  "11FC8 TAMIL FRACTION ONE:TWENTIETH|SIXTEENTH-1|SIXTEENTH-2|TENTH|EIGHTH",
  "11FCD TAMIL FRACTION:THREE TWENTIETHS|THREE SIXTEENTHS|ONE FIFTH",
  "11FD0 TAMIL FRACTION:ONE QUARTER|ONE HALF-1|ONE HALF-2|THREE QUARTERS|DOWNSCALING FACTOR KIIZH",
  "11FD5 TAMIL SIGN:NEL|CEVITU|AAZHAAKKU|UZHAKKU|MUUVUZHAKKU",
  "11FDA TAMIL SIGN:KURUNI|PATHAKKU|MUKKURUNI|KAACU|PANAM|PON|VARAAKAN|PAARAM|KUZHI|VELI",
  "11FE4 TAMIL:WET CULTIVATION SIGN|DRY CULTIVATION SIGN|LAND SIGN|SALT PAN SIGN",
  "11FE8 TAMIL TRADITIONAL:CREDIT SIGN|NUMBER SIGN",
  "11FEA TAMIL:CURRENT SIGN|AND ODD SIGN|SPENT SIGN",
  "11FED TAMIL:TOTAL SIGN|IN POSSESSION SIGN|STARTING FROM SIGN|SIGN MUTHALIYA|SIGN VAKAIYARAA",
  "11FFF :TAMIL PUNCTUATION END OF TEXT|CUNEIFORM SIGN A",
  "12001 CUNEIFORM SIGN A TIMES:A|BAD|GAN2 TENU|HA|IGI|LAGAR GUNU|MUSH|SAG",
  "12009 CUNEIFORM SIGN:A2|AB",
  "1200B CUNEIFORM SIGN AB TIMES:ASH2|DUN3 GUNU|GAL|GAN2 TENU|HA|IGI GUNU|IMIN|LAGAB|SHESH",
  "12014 CUNEIFORM SIGN:AB TIMES U PLUS U PLUS U|AB GUNU|AB2",
  "12017 CUNEIFORM SIGN AB2 TIMES:BALAG|GAN2 TENU|ME PLUS EN|SHA3|TAK4",
  "1201C CUNEIFORM SIGN:AD|AK|AK TIMES ERIN2|AK TIMES SHITA PLUS GISH|AL",
  "12021 CUNEIFORM SIGN AL TIMES:AL|DIM2|GISH|HA|KAD3|KI|SHE|USH",
  "12029 CUNEIFORM SIGN:ALAN|ALEPH|AMAR|AMAR TIMES SHE|AN|AN OVER AN|AN THREE TIMES",
  "12030 CUNEIFORM SIGN AN PLUS NAGA:OPPOSING AN PLUS NAGA|SQUARED",
  "12032 CUNEIFORM SIGN:ANSHE|APIN|ARAD|ARAD TIMES KUR|ARKAB|ASAL2|ASH",
  "12039 CUNEIFORM SIGN ASH:ZIDA TENU|KABA TENU|OVER ASH TUG2 OVER TUG2 TUG2 OVER TUG2 PAP",
  "1203C CUNEIFORM SIGN ASH OVER ASH OVER:ASH|ASH CROSSING ASH OVER ASH OVER ASH",
  "1203E CUNEIFORM SIGN:ASH2|ASHGAB|BA|BAD|BAG3|BAHAR2|BAL|BAL OVER BAL|BALAG",
  "12047 CUNEIFORM SIGN:BAR|BARA2|BI|BI TIMES A|BI TIMES GAR|BI TIMES IGI GUNU|BU|BU OVER BU AB",
  "1204F CUNEIFORM SIGN:BU OVER BU UN|BU CROSSING BU|BULUG|BULUG OVER BULUG|BUR|BUR2|DA|DAG",
  "12057 CUNEIFORM SIGN DAG KISIM5 TIMES:A PLUS MASH|AMAR|BALAG|BI|GA|GA PLUS MASH",
  "1205D CUNEIFORM SIGN DAG KISIM5 TIMES:GI|GIR2|GUD|HA|IR|IR PLUS LU|KAK|LA|LU|LU PLUS MASH2",
  "12067 CUNEIFORM SIGN DAG KISIM5 TIMES:LUM|NE|PAP PLUS PAP|SI|TAK4|U2 PLUS GIR2|USH",
  "1206E CUNEIFORM SIGN:DAM|DAR|DARA3|DARA4|DI",
  "12073 CUNEIFORM SIGN:DIB|DIM|DIM TIMES SHE|DIM2|DIN|DIN KASKAL U GUNU DISH|DISH|DU|DU OVER DU",
  "1207C CUNEIFORM SIGN:DU GUNU|DU SHESHIG|DUB|DUB TIMES ESH2|DUB2|DUG|DUGUD|DUH|DUN|DUN3",
  "12086 CUNEIFORM SIGN:DUN3 GUNU|DUN3 GUNU GUNU|DUN4|DUR2|E|E TIMES PAP|E OVER E NUN OVER NUN|E2",
  "1208E CUNEIFORM SIGN E2 TIMES:A PLUS HA PLUS DA|GAR|MI|SAL|SHE|U",
  "12094 CUNEIFORM SIGN:EDIN|EGIR|EL|EN",
  "12098 CUNEIFORM SIGN EN:TIMES GAN2|TIMES GAN2 TENU|TIMES ME|CROSSING EN|OPPOSING EN|SQUARED",
  "1209E CUNEIFORM SIGN:EREN|ERIN2|ESH2|EZEN|EZEN TIMES A|EZEN TIMES A PLUS LAL",
  "120A4 CUNEIFORM SIGN EZEN TIMES:A PLUS LAL TIMES LAL|AN|BAD|DUN3 GUNU|DUN3 GUNU GUNU|HA|HA GUNU",
  "120AB CUNEIFORM SIGN EZEN TIMES:IGI GUNU|KASKAL|KASKAL SQUARED|KU3|LA|LAL TIMES LAL|LI|LU|U2|UD",
  "120B5 CUNEIFORM SIGN:GA|GA GUNU|GA2|GA2 TIMES A PLUS DA PLUS HA",
  "120B9 CUNEIFORM SIGN GA2 TIMES:A PLUS HA|A PLUS IGI|AB2 TENU PLUS TAB|AN|ASH|ASH2 PLUS GAL",
  "120BF CUNEIFORM SIGN GA2 TIMES:BAD|BAR PLUS RA|BUR|BUR PLUS RA|DA|DI|DIM TIMES SHE",
  "120C6 CUNEIFORM SIGN GA2 TIMES:DUB|EL|EL PLUS LA|EN|EN TIMES GAN2 TENU|GAN2 TENU|GAR|GI",
  "120CE CUNEIFORM SIGN GA2 TIMES:GI4|GI4 PLUS A|GIR2 PLUS SU|HA PLUS LU PLUS ESH2|HAL|HAL PLUS LA",
  "120D4 CUNEIFORM SIGN GA2 TIMES:HI PLUS LI|HUB2|IGI GUNU|ISH PLUS HU PLUS ASH|KAK|KASKAL",
  "120DA CUNEIFORM SIGN GA2 TIMES:KID|KID PLUS LAL|KU3 PLUS AN|LA|ME PLUS EN|MI|NUN|NUN OVER NUN",
  "120E2 CUNEIFORM SIGN GA2 TIMES:PA|SAL|SAR|SHE|SHE PLUS TUR|SHID|SUM|TAK4|U|UD|UD PLUS DU",
  "120ED CUNEIFORM SIGN:GA2 OVER GA2|GABA|GABA CROSSING GABA|GAD|GAD OVER GAD GAR OVER GAR",
  "120F2 CUNEIFORM SIGN:GAL|GAL GAD OVER GAD GAR OVER GAR|GALAM|GAM|GAN|GAN2",
  "120F8 CUNEIFORM SIGN GAN2:TENU|OVER GAN2|CROSSING GAN2",
  "120FB CUNEIFORM SIGN:GAR|GAR3|GASHAN|GESHTIN|GESHTIN TIMES KUR|GI|GI TIMES E|GI TIMES U",
  "12103 CUNEIFORM SIGN:GI CROSSING GI|GI4|GI4 OVER GI4|GI4 CROSSING GI4|GIDIM|GIR2|GIR2 GUNU|GIR3",
  "1210B CUNEIFORM SIGN GIR3 TIMES:A PLUS IGI|GAN2 TENU|IGI|LU PLUS IGI|PA",
  "12110 CUNEIFORM SIGN:GISAL|GISH|GISH CROSSING GISH",
  "12113 CUNEIFORM SIGN:GISH TIMES BAD|GISH TIMES TAK4|GISH TENU|GU|GU CROSSING GU|GU2",
  "12119 CUNEIFORM SIGN GU2 TIMES:KAK|KAK TIMES IGI GUNU|NUN|SAL PLUS TUG2",
  "1211D CUNEIFORM SIGN:GU2 GUNU|GUD|GUD TIMES A PLUS KUR|GUD TIMES KUR|GUD OVER GUD LUGAL",
  "12122 CUNEIFORM SIGN:GUL|GUM|GUM TIMES SHE|GUR|GUR7|GURUN|GURUSH|HA|HA TENU|HA GUNU|HAL|HI",
  "1212E CUNEIFORM SIGN HI TIMES:ASH|ASH2|BAD|DISH|GAD|KIN|NUN|SHE|U",
  "12137 CUNEIFORM SIGN:HU|HUB2",
  "12139 CUNEIFORM SIGN HUB2 TIMES:AN|HAL|KASKAL|LISH|UD",
  "1213E CUNEIFORM SIGN:HUL2|I|I A|IB|IDIM|IDIM OVER IDIM BUR|IDIM OVER IDIM SQUARED|IG|IGI",
  "12147 CUNEIFORM SIGN IGI:DIB|RI|OVER IGI SHIR OVER SHIR UD OVER UD|GUNU",
  "1214B CUNEIFORM SIGN:IL|IL TIMES GAN2 TENU|IL2|IM",
  "1214F CUNEIFORM SIGN:IM TIMES TAK4|IM CROSSING IM|IM OPPOSING IM|IM SQUARED|IMIN|IN|IR|ISH|KA",
  "12158 CUNEIFORM SIGN KA TIMES:A|AD|AD PLUS KU3|ASH2|BAD|BALAG|BAR|BI|ERIN2|ESH2",
  "12162 CUNEIFORM SIGN KA TIMES:GA|GAL|GAN2 TENU|GAR|GAR PLUS SHA3 PLUS A|GI|GIR2|GISH PLUS SAR",
  "1216A CUNEIFORM SIGN KA TIMES:GISH CROSSING GISH|GU|GUR7|IGI|IM|KAK|KI|KID|LI|LU|ME",
  "12175 CUNEIFORM SIGN KA TIMES:ME PLUS DU|ME PLUS GI|ME PLUS TE|MI|MI PLUS NUNUZ|NE|NUN|PI|RU|SA",
  "1217F CUNEIFORM SIGN KA TIMES:SAR|SHA|SHE|SHID|SHU|SIG|SUHUR|TAR|U|U2|UD|UMUM TIMES PA|USH|ZI",
  "1218D CUNEIFORM SIGN:KA2|KA2 CROSSING KA2|KAB|KAD2",
  "12191 CUNEIFORM SIGN:KAD3|KAD4|KAD5|KAD5 OVER KAD5|KAK|KAK TIMES IGI GUNU|KAL|KAL TIMES BAD",
  "12199 CUNEIFORM SIGN:KAL CROSSING KAL|KAM2|KAM4|KASKAL|KASKAL LAGAB TIMES U OVER LAGAB TIMES U",
  "1219E CUNEIFORM SIGN:KASKAL OVER KASKAL LAGAB TIMES U OVER LAGAB TIMES U|KESH2|KI|KI TIMES BAD",
  "121A2 CUNEIFORM SIGN:KI TIMES U|KI TIMES UD|KID|KIN|KISAL|KISH|KISIM5|KISIM5 OVER KISIM5|KU",
  "121AB CUNEIFORM SIGN:KU OVER HI TIMES ASH2 KU OVER HI TIMES ASH2|KU3|KU4|KU4 VARIANT FORM|KU7",
  "121B0 CUNEIFORM SIGN:KUL|KUL GUNU|KUN|KUR|KUR OPPOSING KUR|KUSHU2|KWU318|LA|LAGAB|LAGAB TIMES A",
  "121BA CUNEIFORM SIGN LAGAB TIMES A PLUS:DA PLUS HA|GAR|LAL",
  "121BD CUNEIFORM SIGN LAGAB TIMES:AL|AN|ASH ZIDA TENU|BAD|BI|DAR|EN|GA|GAR|GUD|GUD PLUS GUD|HA",
  "121C9 CUNEIFORM SIGN LAGAB TIMES:HAL|HI TIMES NUN|IGI GUNU|IM|IM PLUS HA|IM PLUS LU|KI|KIN|KU3",
  "121D2 CUNEIFORM SIGN LAGAB TIMES:KUL|KUL PLUS HI PLUS A|LAGAB|LISH|LU|LUL|ME|ME PLUS EN|MUSH|NE",
  "121DC CUNEIFORM SIGN LAGAB TIMES:SHE PLUS SUM|SHITA PLUS GISH PLUS ERIN2|SHITA PLUS GISH TENU",
  "121DF CUNEIFORM SIGN LAGAB TIMES:SHU2|SHU2 PLUS SHU2|SUM|TAG|TAK4|TE PLUS A PLUS SU PLUS NA",
  "121E5 CUNEIFORM SIGN LAGAB TIMES:U|U PLUS A|U PLUS U PLUS U|U2 PLUS ASH|UD|USH",
  "121EB CUNEIFORM SIGN:LAGAB SQUARED|LAGAR",
  "121ED CUNEIFORM SIGN LAGAR:TIMES SHE|TIMES SHE PLUS SUM|GUNU|GUNU OVER LAGAR GUNU SHE",
  "121F1 CUNEIFORM SIGN:LAHSHU|LAL|LAL TIMES LAL|LAM|LAM TIMES KUR|LAM TIMES KUR PLUS RU",
  "121F7 CUNEIFORM SIGN:LI|LIL|LIMMU2|LISH|LU|LU TIMES BAD|LU2|LU2 TIMES AL|LU2 TIMES BAD",
  "12200 CUNEIFORM SIGN LU2 TIMES:ESH2|ESH2 TENU|GAN2 TENU|HI TIMES BAD|IM|KAD2|KAD3|KAD3 PLUS ASH",
  "12208 CUNEIFORM SIGN LU2 TIMES:KI|LA PLUS ASH|LAGAB|ME PLUS EN|NE|NU|SI PLUS ASH|SIK2 PLUS BU",
  "12210 CUNEIFORM SIGN LU2:TIMES TUG2|TENU|CROSSING LU2|OPPOSING LU2|SQUARED|SHESHIG",
  "12216 CUNEIFORM SIGN:LU3|LUGAL|LUGAL OVER LUGAL|LUGAL OPPOSING LUGAL|LUGAL SHESHIG|LUH|LUL|LUM",
  "1221E CUNEIFORM SIGN:LUM OVER LUM|LUM OVER LUM GAR OVER GAR|MA|MA TIMES TAK4|MA GUNU|MA2|MAH",
  "12225 CUNEIFORM SIGN:MAR|MASH|MASH2|ME|MES|MI|MIN|MU|MU OVER MU|MUG|MUG GUNU|MUNSUB|MURGU2|MUSH",
  "12233 CUNEIFORM SIGN MUSH TIMES:A|KUR|ZA",
  "12236 CUNEIFORM SIGN:MUSH OVER MUSH|MUSH OVER MUSH TIMES A PLUS NA|MUSH CROSSING MUSH|MUSH3",
  "1223A CUNEIFORM SIGN MUSH3:TIMES A|TIMES A PLUS DI|TIMES DI|GUNU",
  "1223E CUNEIFORM SIGN:NA|NA2|NAGA|NAGA INVERTED|NAGA TIMES SHU TENU|NAGA OPPOSING NAGA",
  "12244 CUNEIFORM SIGN:NAGAR|NAM NUTILLU|NAM|NAM2|NE|NE TIMES A|NE TIMES UD|NE SHESHIG|NI",
  "1224D CUNEIFORM SIGN:NI TIMES E|NI2|NIM|NIM TIMES GAN2 TENU|NIM TIMES GAR PLUS GAN2 TENU|NINDA2",
  "12253 CUNEIFORM SIGN NINDA2 TIMES:AN|ASH|ASH PLUS ASH|GUD|ME PLUS GAN2 TENU|NE|NUN|SHE",
  "1225B CUNEIFORM SIGN NINDA2 TIMES SHE PLUS:A AN|ASH|ASH PLUS ASH",
  "1225E CUNEIFORM SIGN:NINDA2 TIMES U2 PLUS ASH|NINDA2 TIMES USH|NISAG|NU|NU11|NUN",
  "12264 CUNEIFORM SIGN NUN LAGAR TIMES:GAR|MASH|SAL|SAL OVER NUN LAGAR TIMES SAL|USH",
  "12269 CUNEIFORM SIGN NUN:TENU|OVER NUN|CROSSING NUN|CROSSING NUN LAGAR OVER LAGAR",
  "1226D CUNEIFORM SIGN:NUNUZ",
  "1226E CUNEIFORM SIGN NUNUZ AB2 TIMES:ASHGAB|BI|DUG|GUD|IGI GUNU|KAD3|LA|NE|SILA3|U2",
  "12278 CUNEIFORM SIGN:NUNUZ KISIM5 TIMES BI|NUNUZ KISIM5 TIMES BI U|PA|PAD|PAN|PAP|PESH2|PI",
  "12280 CUNEIFORM SIGN PI TIMES:A|AB|BI|BU|E|I|IB|U|U2",
  "12289 CUNEIFORM SIGN:PI CROSSING PI|PIRIG",
  "1228B CUNEIFORM SIGN PIRIG TIMES:KAL|UD|ZA",
  "1228E CUNEIFORM SIGN:PIRIG OPPOSING PIRIG|RA|RAB|RI|RU|SA|SAG NUTILLU|SAG",
  "12296 CUNEIFORM SIGN SAG TIMES:A|DU|DUB|HA|KAK|KUR|LUM|MI|NUN|SAL|SHID|TAB|U2|UB|UM|UR|USH",
  "122A7 CUNEIFORM SIGN:SAG OVER SAG|SAG GUNU|SAL|SAL LAGAB TIMES ASH2|SANGA2|SAR|SHA|SHA3",
  "122AF CUNEIFORM SIGN SHA3 TIMES:A|BAD|GISH|NE|SHU2|TUR|U|U PLUS A",
  "122B7 CUNEIFORM SIGN:SHA6|SHAB6|SHAR2|SHE|SHE HU",
  "122BC CUNEIFORM SIGN SHE OVER SHE:GAD OVER GAD GAR OVER GAR|TAB OVER TAB GAR OVER GAR",
  "122BE CUNEIFORM SIGN:SHEG9|SHEN|SHESH|SHESH2|SHESHLAM|SHID|SHID TIMES A|SHID TIMES IM|SHIM",
  "122C7 CUNEIFORM SIGN SHIM TIMES:A|BAL|BULUG|DIN|GAR|IGI|IGI GUNU|KUSHU2|LUL|MUG|SAL",
  "122D2 CUNEIFORM SIGN:SHINIG|SHIR|SHIR TENU|SHIR OVER SHIR BUR OVER BUR|SHITA|SHU",
  "122D8 CUNEIFORM SIGN:SHU OVER INVERTED SHU|SHU2|SHUBUR|SI|SI GUNU|SIG|SIG4|SIG4 OVER SIG4 SHU2",
  "122E0 CUNEIFORM SIGN:SIK2|SILA3|SU|SU OVER SU|SUD|SUD2|SUHUR|SUM|SUMASH|SUR|SUR9|TA|TA ASTERISK",
  "122ED CUNEIFORM SIGN TA TIMES:HI|MI",
  "122EF CUNEIFORM SIGN:TA GUNU|TAB|TAB OVER TAB NI OVER NI DISH OVER DISH|TAB SQUARED|TAG",
  "122F4 CUNEIFORM SIGN TAG TIMES:BI|GUD|SHE|SHU|TUG2|UD",
  "122FA CUNEIFORM SIGN:TAK4|TAR|TE|TE GUNU|TI|TI TENU|TIL|TIR|TIR TIMES TAK4",
  "12303 CUNEIFORM SIGN TIR OVER:TIR|TIR GAD OVER GAD GAR OVER GAR",
  "12305 CUNEIFORM SIGN:TU|TUG2|TUK|TUM|TUR|TUR OVER TUR ZA OVER ZA|U|U GUD|U U U",
  "1230E CUNEIFORM SIGN U OVER U:PA OVER PA GAR OVER GAR|SUR OVER SUR|U REVERSED OVER U REVERSED",
  "12311 CUNEIFORM SIGN:U2|UB|UD|UD KUSHU2",
  "12315 CUNEIFORM SIGN UD TIMES:BAD|MI|U PLUS U PLUS U|U PLUS U PLUS U GUNU",
  "12319 CUNEIFORM SIGN:UD GUNU|UD SHESHIG|UD SHESHIG TIMES BAD|UDUG|UM",
  "1231E CUNEIFORM SIGN UM TIMES:LAGAB|ME PLUS DA|SHA3|U",
  "12322 CUNEIFORM SIGN:UMBIN|UMUM|UMUM TIMES KASKAL",
  "12325 CUNEIFORM SIGN:UMUM TIMES PA|UN|UN GUNU|UR|UR CROSSING UR|UR SHESHIG|UR2",
  "1232C CUNEIFORM SIGN UR2 TIMES:A PLUS HA|A PLUS NA|AL|HA|NUN|U2|U2 PLUS ASH|U2 PLUS BI",
  "12334 CUNEIFORM SIGN:UR4|URI|URI3|URU",
  "12338 CUNEIFORM SIGN URU TIMES:A|ASHGAB|BAR|DUN|GA|GAL|GAN2 TENU|GAR",
  "12340 CUNEIFORM SIGN URU TIMES:GU|HA|IGI|IM|ISH|KI|LUM|MIN|PA|SHE|SIG4|TU|U PLUS GUD|UD|URUDA",
  "1234F CUNEIFORM SIGN:URUDA|URUDA TIMES U|USH",
  "12352 CUNEIFORM SIGN USH TIMES:A|KU|KUR|TAK4",
  "12356 CUNEIFORM SIGN:USHX|USH2|USHUMX|UTUKI|UZ3|UZ3 TIMES KASKAL",
  "1235C CUNEIFORM SIGN:UZU|ZA|ZA TENU|ZA SQUARED TIMES KUR|ZAG|ZAMX|ZE2|ZI|ZI OVER ZI",
  "12365 CUNEIFORM SIGN:ZI3|ZIB|ZIB KABA TENU|ZIG|ZIZ2|ZU|ZU5|ZU5 TIMES A|ZUBUR|ZUM|KAP ELAMITE",
  "12370 CUNEIFORM SIGN:AB TIMES NUN|AB2 TIMES A|AMAR TIMES KUG|DAG KISIM5 TIMES U2 PLUS MASH",
  "12374 CUNEIFORM SIGN:DAG3|DISH PLUS SHU|DUB TIMES SHE|EZEN TIMES GUD",
  "12378 CUNEIFORM SIGN:EZEN TIMES SHE|GA2 TIMES AN PLUS KAK PLUS A|GA2 TIMES ASH2|GE22|GIG|HUSH",
  "1237E CUNEIFORM SIGN KA TIMES:ANSHE|ASH3|GISH|GUD|HI TIMES ASH2|LUM|PA|SHUL|TU|UR2",
  "12388 CUNEIFORM SIGN:LAGAB TIMES GI|LU2 SHESHIG TIMES BAD",
  "1238A CUNEIFORM SIGN:LU2 TIMES ESH2 PLUS LAL|LU2 TIMES SHU|MESH|MUSH3 TIMES ZA",
  "1238E CUNEIFORM SIGN:NA4|NIN|NIN9|NINDA2 TIMES BAL|NINDA2 TIMES GI|NU11 ROTATED NINETY DEGREES",
  "12394 CUNEIFORM SIGN:PESH2 ASTERISK|PIR2|SAG TIMES IGI GUNU|TI2|UM TIMES ME|U U",
  "12400 CUNEIFORM NUMERIC SIGN:TWO ASH|THREE ASH|FOUR ASH",
  "12403 CUNEIFORM NUMERIC SIGN:FIVE ASH|SIX ASH|SEVEN ASH|EIGHT ASH|NINE ASH|THREE DISH|FOUR DISH",
  "1240A CUNEIFORM NUMERIC SIGN:FIVE DISH|SIX DISH|SEVEN DISH|EIGHT DISH|NINE DISH|FOUR U|FIVE U",
  "12411 CUNEIFORM NUMERIC SIGN:SIX U|SEVEN U|EIGHT U|NINE U|ONE GESH2|TWO GESH2|THREE GESH2",
  "12418 CUNEIFORM NUMERIC SIGN:FOUR GESH2|FIVE GESH2|SIX GESH2|SEVEN GESH2|EIGHT GESH2|NINE GESH2",
  "1241E CUNEIFORM NUMERIC SIGN:ONE GESHU|TWO GESHU|THREE GESHU|FOUR GESHU|FIVE GESHU|TWO SHAR2",
  "12424 CUNEIFORM NUMERIC SIGN:THREE SHAR2|THREE SHAR2 VARIANT FORM|FOUR SHAR2|FIVE SHAR2",
  "12428 CUNEIFORM NUMERIC SIGN:SIX SHAR2|SEVEN SHAR2|EIGHT SHAR2|NINE SHAR2|ONE SHARU|TWO SHARU",
  "1242E CUNEIFORM NUMERIC SIGN:THREE SHARU|THREE SHARU VARIANT FORM|FOUR SHARU|FIVE SHARU",
  "12432 CUNEIFORM NUMERIC SIGN SHAR2 TIMES GAL PLUS:DISH|MIN",
  "12434 CUNEIFORM NUMERIC SIGN:ONE BURU|TWO BURU|THREE BURU|THREE BURU VARIANT FORM|FOUR BURU",
  "12439 CUNEIFORM NUMERIC SIGN:FIVE BURU|THREE VARIANT FORM ESH16|THREE VARIANT FORM ESH21",
  "1243C CUNEIFORM NUMERIC SIGN FOUR VARIANT FORM:LIMMU|LIMMU4|LIMMU A|LIMMU B",
  "12440 CUNEIFORM NUMERIC SIGN SIX VARIANT FORM:ASH9",
  "12441 CUNEIFORM NUMERIC SIGN SEVEN VARIANT FORM:IMIN3|IMIN A|IMIN B",
  "12444 CUNEIFORM NUMERIC SIGN EIGHT VARIANT FORM:USSU|USSU3",
  "12446 CUNEIFORM NUMERIC SIGN NINE VARIANT FORM:ILIMMU|ILIMMU3|ILIMMU4|ILIMMU A",
  "1244A CUNEIFORM NUMERIC SIGN:TWO ASH TENU|THREE ASH TENU|FOUR ASH TENU",
  "1244D CUNEIFORM NUMERIC SIGN:FIVE ASH TENU|SIX ASH TENU|ONE BAN2|TWO BAN2|THREE BAN2",
  "12452 CUNEIFORM NUMERIC SIGN:FOUR BAN2|FOUR BAN2 VARIANT FORM|FIVE BAN2|FIVE BAN2 VARIANT FORM",
  "12456 CUNEIFORM NUMERIC SIGN:NIGIDAMIN|NIGIDAESH|ONE ESHE3|TWO ESHE3|ONE THIRD DISH",
  "1245B CUNEIFORM NUMERIC SIGN:TWO THIRDS DISH|FIVE SIXTHS DISH|ONE THIRD VARIANT FORM A",
  "1245E CUNEIFORM NUMERIC SIGN:TWO THIRDS VARIANT FORM A|ONE EIGHTH ASH|ONE QUARTER ASH",
  "12461 CUNEIFORM NUMERIC SIGN OLD ASSYRIAN ONE:SIXTH|QUARTER",
  "12463 CUNEIFORM NUMERIC SIGN ONE:QUARTER GUR|HALF GUR",
  "12465 CUNEIFORM NUMERIC SIGN ELAMITE:ONE THIRD|TWO THIRDS|FORTY|FIFTY",
  "12469 CUNEIFORM NUMERIC SIGN:FOUR U VARIANT FORM|FIVE U VARIANT FORM|SIX U VARIANT FORM",
  "1246C CUNEIFORM NUMERIC SIGN:SEVEN U VARIANT FORM|EIGHT U VARIANT FORM|NINE U VARIANT FORM",
  "12470 CUNEIFORM PUNCTUATION SIGN:OLD ASSYRIAN WORD DIVIDER|VERTICAL COLON",
  "12472 CUNEIFORM PUNCTUATION SIGN DIAGONAL:COLON|TRICOLON|QUADCOLON",
  "12480 CUNEIFORM SIGN:AB TIMES NUN TENU|AB TIMES SHU2|AD TIMES ESH2|BAD TIMES DISH TENU",
  "12484 CUNEIFORM SIGN BAHAR2 TIMES:AB2|NI|ZA",
  "12487 CUNEIFORM SIGN BU OVER BU TIMES:NA2",
  "12488 CUNEIFORM SIGN:DA TIMES TAK4|DAG TIMES KUR|DIM TIMES IGI|DIM TIMES U U U|DIM2 TIMES UD",
  "1248D CUNEIFORM SIGN DUG TIMES:ANSHE|ASH|ASH AT LEFT|DIN|DUN|ERIN2|GA|GI|GIR2 GUNU",
  "12496 CUNEIFORM SIGN DUG TIMES:GISH|HA|HI|IGI GUNU|KASKAL|KUR|KUSHU2|KUSHU2 PLUS KASKAL|LAK-020",
  "1249F CUNEIFORM SIGN DUG TIMES:LAM|LAM TIMES KUR|LUH PLUS GISH|MASH|MES|MI|NI|PI|SHE|SI GUNU",
  "124A9 CUNEIFORM SIGN:E2 TIMES KUR|E2 TIMES PAP|ERIN2 X|ESH2 CROSSING ESH2",
  "124AD CUNEIFORM SIGN EZEN SHESHIG TIMES:ASH|HI|IGI GUNU|LA|LAL|ME|MES|SU",
  "124B5 CUNEIFORM SIGN EZEN TIMES:SU",
  "124B6 CUNEIFORM SIGN GA2 TIMES:BAHAR2|DIM GUNU|DUG TIMES IGI GUNU|DUG TIMES KASKAL",
  "124BA CUNEIFORM SIGN GA2 TIMES:EREN|GA|GAR PLUS DI|GAR PLUS NE|HA PLUS A|KUSHU2 PLUS KASKAL",
  "124C0 CUNEIFORM SIGN GA2 TIMES:LAM|LAM TIMES KUR|LUH|MUSH|NE|NE PLUS E2|NE PLUS GI|SHIM|ZIZ2",
  "124C9 CUNEIFORM SIGN GABA ROTATED NINETY:DEGREES",
  "124CA CUNEIFORM SIGN:GESHTIN TIMES U|GISH TIMES GISH CROSSING GISH|GU2 TIMES IGI GUNU",
  "124CD CUNEIFORM SIGN:GUD PLUS GISH TIMES TAK4|HA TENU GUNU|HI TIMES ASH OVER HI TIMES ASH",
  "124D0 CUNEIFORM SIGN KA TIMES:BU|KA|U U U|UR",
  "124D4 CUNEIFORM SIGN:LAGAB TIMES ZU OVER ZU|LAK-003|LAK-021|LAK-025|LAK-030|LAK-050|LAK-051",
  "124DB CUNEIFORM SIGN:LAK-062|LAK-079 OVER LAK-079 GUNU|LAK-080|LAK-081 OVER LAK-081|LAK-092",
  "124E0 CUNEIFORM SIGN:LAK-130|LAK-142|LAK-210|LAK-219|LAK-220|LAK-225|LAK-228|LAK-238|LAK-265",
  "124E9 CUNEIFORM SIGN:LAK-266|LAK-343|LAK-347|LAK-348|LAK-383|LAK-384|LAK-390|LAK-441|LAK-449",
  "124F2 CUNEIFORM SIGN LAK-449 TIMES:GU|IGI|PAP PLUS LU3|PAP PLUS PAP PLUS LU3|U2 PLUS BA",
  "124F7 CUNEIFORM SIGN:LAK-450|LAK-457",
  "124F9 CUNEIFORM SIGN:LAK-470|LAK-483|LAK-490|LAK-492|LAK-493|LAK-495|LAK-550|LAK-608|LAK-617",
  "12502 CUNEIFORM SIGN LAK-617 TIMES:ASH|BAD|DUN3 GUNU GUNU|KU3|LA|TAR|TE|U2|UD|URUDA",
  "1250C CUNEIFORM SIGN:LAK-636|LAK-648",
  "1250E CUNEIFORM SIGN LAK-648 TIMES:DUB|GA|IGI|IGI GUNU|NI|PAP PLUS PAP PLUS LU3|SHESH PLUS KI",
  "12515 CUNEIFORM SIGN:LAK-648 TIMES UD|LAK-648 TIMES URUDA|LAK-724|LAK-749|LU2 GUNU TIMES ASH",
  "1251A CUNEIFORM SIGN LU2 TIMES:DISH|HAL|PAP|PAP PLUS PAP PLUS LU3|TAK4",
  "1251F CUNEIFORM SIGN MI PLUS:ZA7",
  "12520 CUNEIFORM SIGN:MUSH OVER MUSH TIMES GA|MUSH OVER MUSH TIMES KAK|NINDA2 TIMES DIM GUNU",
  "12523 CUNEIFORM SIGN NINDA2 TIMES:GISH|GUL|HI|KESH2|LAK-050|MASH|PAP PLUS PAP|U|U PLUS U|URUDA",
  "1252D CUNEIFORM SIGN SAG:GUNU TIMES HA|TIMES EN|TIMES SHE AT LEFT|TIMES TAK4",
  "12531 CUNEIFORM SIGN:SHA6 TENU|SHE OVER SHE|SHE PLUS HUB2|SHE PLUS NAM2|SHE PLUS SAR",
  "12536 CUNEIFORM SIGN:SHU2 PLUS DUG TIMES NI|SHU2 PLUS E2 TIMES AN|SI TIMES TAK4|TAK4 PLUS SAG",
  "1253A CUNEIFORM SIGN:TUM TIMES GAN2 TENU|TUM TIMES THREE DISH|UR2 INVERTED|UR2 TIMES UD",
  "1253E CUNEIFORM SIGN URU TIMES:DARA3|LAK-668|LU3",
  "12541 CUNEIFORM SIGN:ZA7|ZU OVER ZU PLUS SAR|ZU5 TIMES THREE DISH TENU",
  "12F90 CYPRO-MINOAN SIGN:CM001|CM002|CM004|CM005|CM006",
  "12F95 CYPRO-MINOAN SIGN:CM007|CM008|CM009|CM010|CM011|CM012|CM012B|CM013|CM015|CM017|CM019",
  "12FA0 CYPRO-MINOAN SIGN:CM021|CM023|CM024|CM025|CM026|CM027|CM028|CM029|CM030|CM033|CM034|CM035",
  "12FAC CYPRO-MINOAN SIGN:CM036|CM037|CM038|CM039|CM040|CM041|CM044|CM046|CM047|CM049|CM050|CM051",
  "12FB8 CYPRO-MINOAN SIGN:CM052|CM053|CM054|CM055|CM056|CM058|CM059|CM060|CM061|CM062|CM063|CM064",
  "12FC4 CYPRO-MINOAN SIGN:CM066|CM067|CM068|CM069|CM070|CM071|CM072|CM073|CM074|CM075|CM075B",
  "12FCF CYPRO-MINOAN SIGN:CM076|CM078|CM079|CM080|CM081|CM082|CM083|CM084|CM085|CM086|CM087|CM088",
  "12FDB CYPRO-MINOAN SIGN:CM089|CM090|CM091|CM092|CM094|CM095|CM096|CM097|CM098|CM099|CM100|CM101",
  "12FE7 CYPRO-MINOAN SIGN:CM102|CM103|CM104|CM105|CM107|CM108|CM109|CM110|CM112|CM114|CM301|CM302",
  "13000 EGYPTIAN HIEROGLYPH:A001|A002|A003|A004|A005|A005A|A006|A006A|A006B|A007|A008|A009|A010",
  "1300D EGYPTIAN HIEROGLYPH:A011|A012|A013|A014|A014A|A015|A016|A017|A017A|A018|A019|A020|A021",
  "1301A EGYPTIAN HIEROGLYPH:A022|A023|A024|A025|A026|A027|A028|A029|A030|A031|A032|A032A|A033",
  "13027 EGYPTIAN HIEROGLYPH:A034|A035|A036|A037|A038|A039|A040|A040A|A041|A042|A042A|A043|A043A",
  "13034 EGYPTIAN HIEROGLYPH:A044|A045|A045A|A046|A047|A048|A049|A050|A051|A052|A053|A054|A055",
  "13041 EGYPTIAN HIEROGLYPH:A056|A057|A058|A059|A060|A061|A062|A063|A064|A065|A066|A067|A068|A069",
  "1304F EGYPTIAN HIEROGLYPH:A070|B001|B002|B003|B004|B005|B005A|B006|B007|B008|B009|C001|C002",
  "1305C EGYPTIAN HIEROGLYPH:C002A|C002B|C002C|C003|C004|C005|C006|C007|C008|C009|C010|C010A|C011",
  "13069 EGYPTIAN HIEROGLYPH:C012|C013|C014|C015|C016|C017|C018|C019|C020|C021|C022|C023|C024|D001",
  "13077 EGYPTIAN HIEROGLYPH:D002|D003|D004|D005|D006|D007|D008|D008A|D009|D010|D011|D012|D013",
  "13084 EGYPTIAN HIEROGLYPH:D014|D015|D016|D017|D018|D019|D020|D021|D022|D023|D024|D025|D026|D027",
  "13092 EGYPTIAN HIEROGLYPH:D027A|D028|D029|D030|D031|D031A|D032|D033|D034|D034A|D035|D036|D037",
  "1309F EGYPTIAN HIEROGLYPH:D038|D039|D040|D041|D042|D043|D044|D045|D046|D046A|D047|D048|D048A",
  "130AC EGYPTIAN HIEROGLYPH:D049|D050|D050A|D050B|D050C|D050D|D050E|D050F|D050G|D050H|D050I|D051",
  "130B8 EGYPTIAN HIEROGLYPH:D052|D052A|D053|D054|D054A|D055|D056|D057|D058|D059|D060|D061|D062",
  "130C5 EGYPTIAN HIEROGLYPH:D063|D064|D065|D066|D067|D067A|D067B|D067C|D067D|D067E|D067F|D067G",
  "130D1 EGYPTIAN HIEROGLYPH:D067H|E001|E002|E003|E004|E005|E006|E007|E008|E008A|E009|E009A|E010",
  "130DE EGYPTIAN HIEROGLYPH:E011|E012|E013|E014|E015|E016|E016A|E017|E017A|E018|E019|E020|E020A",
  "130EB EGYPTIAN HIEROGLYPH:E021|E022|E023|E024|E025|E026|E027|E028|E028A|E029|E030|E031|E032",
  "130F8 EGYPTIAN HIEROGLYPH:E033|E034|E034A|E036|E037|E038|F001|F001A|F002|F003|F004|F005|F006",
  "13105 EGYPTIAN HIEROGLYPH:F007|F008|F009|F010|F011|F012|F013|F013A|F014|F015|F016|F017|F018",
  "13112 EGYPTIAN HIEROGLYPH:F019|F020|F021|F021A|F022|F023|F024|F025|F026|F027|F028|F029|F030",
  "1311F EGYPTIAN HIEROGLYPH:F031|F031A|F032|F033|F034|F035|F036|F037|F037A|F038|F038A|F039|F040",
  "1312C EGYPTIAN HIEROGLYPH:F041|F042|F043|F044|F045|F045A|F046|F046A|F047|F047A|F048|F049|F050",
  "13139 EGYPTIAN HIEROGLYPH:F051|F051A|F051B|F051C|F052|F053|G001|G002|G003|G004|G005|G006|G006A",
  "13146 EGYPTIAN HIEROGLYPH:G007|G007A|G007B|G008|G009|G010|G011|G011A|G012|G013|G014|G015|G016",
  "13153 EGYPTIAN HIEROGLYPH:G017|G018|G019|G020|G020A|G021|G022|G023|G024|G025|G026|G026A|G027",
  "13160 EGYPTIAN HIEROGLYPH:G028|G029|G030|G031|G032|G033|G034|G035|G036|G036A|G037|G037A|G038",
  "1316D EGYPTIAN HIEROGLYPH:G039|G040|G041|G042|G043|G043A|G044|G045|G045A|G046|G047|G048|G049",
  "1317A EGYPTIAN HIEROGLYPH:G050|G051|G052|G053|G054|H001|H002|H003|H004|H005|H006|H006A|H007",
  "13187 EGYPTIAN HIEROGLYPH:H008|I001|I002|I003|I004|I005|I005A|I006|I007|I008|I009|I009A|I010",
  "13194 EGYPTIAN HIEROGLYPH:I010A|I011|I011A|I012|I013|I014|I015|K001|K002|K003|K004|K005|K006",
  "131A1 EGYPTIAN HIEROGLYPH:K007|K008|L001|L002|L002A|L003|L004|L005|L006|L006A|L007|L008|M001",
  "131AE EGYPTIAN HIEROGLYPH:M001A|M001B|M002|M003|M003A|M004|M005|M006|M007|M008|M009|M010|M010A",
  "131BB EGYPTIAN HIEROGLYPH:M011|M012|M012A|M012B|M012C|M012D|M012E|M012F|M012G|M012H|M013|M014",
  "131C7 EGYPTIAN HIEROGLYPH:M015|M015A|M016|M016A|M017|M017A|M018|M019|M020|M021|M022|M022A|M023",
  "131D4 EGYPTIAN HIEROGLYPH:M024|M024A|M025|M026|M027|M028|M028A|M029|M030|M031|M031A|M032|M033",
  "131E1 EGYPTIAN HIEROGLYPH:M033A|M033B|M034|M035|M036|M037|M038|M039|M040|M040A|M041|M042|M043",
  "131EE EGYPTIAN HIEROGLYPH:M044|N001|N002|N003|N004|N005|N006|N007|N008|N009|N010|N011|N012|N013",
  "131FC EGYPTIAN HIEROGLYPH:N014|N015|N016|N017|N018|N018A|N018B|N019|N020|N021|N022|N023|N024",
  "13209 EGYPTIAN HIEROGLYPH:N025|N025A|N026|N027|N028|N029|N030|N031|N032|N033|N033A|N034|N034A",
  "13216 EGYPTIAN HIEROGLYPH:N035|N035A|N036|N037|N037A|N038|N039|N040|N041|N042|NL001|NL002|NL003",
  "13223 EGYPTIAN HIEROGLYPH:NL004|NL005|NL005A|NL006|NL007|NL008|NL009|NL010|NL011|NL012|NL013",
  "1322E EGYPTIAN HIEROGLYPH:NL014|NL015|NL016|NL017|NL017A|NL018|NL019|NL020|NU001|NU002|NU003",
  "13239 EGYPTIAN HIEROGLYPH:NU004|NU005|NU006|NU007|NU008|NU009|NU010|NU010A|NU011|NU011A|NU012",
  "13244 EGYPTIAN HIEROGLYPH:NU013|NU014|NU015|NU016|NU017|NU018|NU018A|NU019|NU020|NU021|NU022",
  "1324F EGYPTIAN HIEROGLYPH:NU022A|O001|O001A|O002|O003|O004|O005|O005A|O006|O006A|O006B|O006C",
  "1325B EGYPTIAN HIEROGLYPH:O006D|O006E|O006F|O007|O008|O009|O010|O010A|O010B|O010C|O011|O012",
  "13267 EGYPTIAN HIEROGLYPH:O013|O014|O015|O016|O017|O018|O019|O019A|O020|O020A|O021|O022|O023",
  "13274 EGYPTIAN HIEROGLYPH:O024|O024A|O025|O025A|O026|O027|O028|O029|O029A|O030|O030A|O031|O032",
  "13281 EGYPTIAN HIEROGLYPH:O033|O033A|O034|O035|O036|O036A|O036B|O036C|O036D|O037|O038|O039|O040",
  "1328E EGYPTIAN HIEROGLYPH:O041|O042|O043|O044|O045|O046|O047|O048|O049|O050|O050A|O050B|O051",
  "1329B EGYPTIAN HIEROGLYPH:P001|P001A|P002|P003|P003A|P004|P005|P006|P007|P008|P009|P010|P011",
  "132A8 EGYPTIAN HIEROGLYPH:Q001|Q002|Q003|Q004|Q005|Q006|Q007|R001|R002|R002A|R003|R003A|R003B",
  "132B5 EGYPTIAN HIEROGLYPH:R004|R005|R006|R007|R008|R009|R010|R010A|R011|R012|R013|R014|R015",
  "132C2 EGYPTIAN HIEROGLYPH:R016|R016A|R017|R018|R019|R020|R021|R022|R023|R024|R025|R026|R027",
  "132CF EGYPTIAN HIEROGLYPH:R028|R029|S001|S002|S002A|S003|S004|S005|S006|S006A|S007|S008|S009",
  "132DC EGYPTIAN HIEROGLYPH:S010|S011|S012|S013|S014|S014A|S014B|S015|S016|S017|S017A|S018|S019",
  "132E9 EGYPTIAN HIEROGLYPH:S020|S021|S022|S023|S024|S025|S026|S026A|S026B|S027|S028|S029|S030",
  "132F6 EGYPTIAN HIEROGLYPH:S031|S032|S033|S034|S035|S035A|S036|S037|S038|S039|S040|S041|S042",
  "13303 EGYPTIAN HIEROGLYPH:S043|S044|S045|S046|T001|T002|T003|T003A|T004|T005|T006|T007|T007A",
  "13310 EGYPTIAN HIEROGLYPH:T008|T008A|T009|T009A|T010|T011|T011A|T012|T013|T014|T015|T016|T016A",
  "1331D EGYPTIAN HIEROGLYPH:T017|T018|T019|T020|T021|T022|T023|T024|T025|T026|T027|T028|T029",
  "1332A EGYPTIAN HIEROGLYPH:T030|T031|T032|T032A|T033|T033A|T034|T035|T036|U001|U002|U003|U004",
  "13337 EGYPTIAN HIEROGLYPH:U005|U006|U006A|U006B|U007|U008|U009|U010|U011|U012|U013|U014|U015",
  "13344 EGYPTIAN HIEROGLYPH:U016|U017|U018|U019|U020|U021|U022|U023|U023A|U024|U025|U026|U027",
  "13351 EGYPTIAN HIEROGLYPH:U028|U029|U029A|U030|U031|U032|U032A|U033|U034|U035|U036|U037|U038",
  "1335E EGYPTIAN HIEROGLYPH:U039|U040|U041|U042|V001|V001A|V001B|V001C|V001D|V001E|V001F|V001G",
  "1336A EGYPTIAN HIEROGLYPH:V001H|V001I|V002|V002A|V003|V004|V005|V006|V007|V007A|V007B|V008",
  "13376 EGYPTIAN HIEROGLYPH:V009|V010|V011|V011A|V011B|V011C|V012|V012A|V012B|V013|V014|V015|V016",
  "13383 EGYPTIAN HIEROGLYPH:V017|V018|V019|V020|V020A|V020B|V020C|V020D|V020E|V020F|V020G|V020H",
  "1338F EGYPTIAN HIEROGLYPH:V020I|V020J|V020K|V020L|V021|V022|V023|V023A|V024|V025|V026|V027|V028",
  "1339C EGYPTIAN HIEROGLYPH:V028A|V029|V029A|V030|V030A|V031|V031A|V032|V033|V033A|V034|V035|V036",
  "133A9 EGYPTIAN HIEROGLYPH:V037|V037A|V038|V039|V040|V040A|W001|W002|W003|W003A|W004|W005|W006",
  "133B6 EGYPTIAN HIEROGLYPH:W007|W008|W009|W009A|W010|W010A|W011|W012|W013|W014|W014A|W015|W016",
  "133C3 EGYPTIAN HIEROGLYPH:W017|W017A|W018|W018A|W019|W020|W021|W022|W023|W024|W024A|W025|X001",
  "133D0 EGYPTIAN HIEROGLYPH:X002|X003|X004|X004A|X004B|X005|X006|X006A|X007|X008|X008A|Y001|Y001A",
  "133DD EGYPTIAN HIEROGLYPH:Y002|Y003|Y004|Y005|Y006|Y007|Y008|Z001|Z002|Z002A|Z002B|Z002C|Z002D",
  "133EA EGYPTIAN HIEROGLYPH:Z003|Z003A|Z003B|Z004|Z004A|Z005|Z005A|Z006|Z007|Z008|Z009|Z010|Z011",
  "133F7 EGYPTIAN HIEROGLYPH:Z012|Z013|Z014|Z015|Z015A|Z015B|Z015C|Z015D|Z015E|Z015F|Z015G|Z015H",
  "13403 EGYPTIAN HIEROGLYPH:Z015I|Z016|Z016A|Z016B|Z016C|Z016D|Z016E|Z016F|Z016G|Z016H|AA001",
  "1340E EGYPTIAN HIEROGLYPH:AA002|AA003|AA004|AA005|AA006|AA007|AA007A|AA007B|AA008|AA009|AA010",
  "13419 EGYPTIAN HIEROGLYPH:AA011|AA012|AA013|AA014|AA015|AA016|AA017|AA018|AA019|AA020|AA021",
  "13424 EGYPTIAN HIEROGLYPH:AA022|AA023|AA024|AA025|AA026|AA027|AA028|AA029|AA030|AA031|AA032",
  "13430 EGYPTIAN HIEROGLYPH:VERTICAL JOINER|HORIZONTAL JOINER",
  "13432 EGYPTIAN HIEROGLYPH INSERT AT:TOP START|BOTTOM START|TOP END|BOTTOM END",
  "13436 EGYPTIAN HIEROGLYPH:OVERLAY MIDDLE|BEGIN SEGMENT|END SEGMENT",
  "14400 ANATOLIAN HIEROGLYPH:A001|A002|A003|A004|A005|A006|A007|A008|A009|A010|A010A",
  "1440B ANATOLIAN HIEROGLYPH:A011|A012|A013|A014|A015|A016|A017|A018|A019|A020|A021|A022|A023",
  "14418 ANATOLIAN HIEROGLYPH:A024|A025|A026|A026A|A027|A028|A029|A030|A031|A032|A033|A034|A035",
  "14425 ANATOLIAN HIEROGLYPH:A036|A037|A038|A039|A039A|A040|A041|A041A|A042|A043|A044|A045|A045A",
  "14432 ANATOLIAN HIEROGLYPH:A046|A046A|A046B|A047|A048|A049|A050|A051|A052|A053|A054|A055|A056",
  "1443F ANATOLIAN HIEROGLYPH:A057|A058|A059|A060|A061|A062|A063|A064|A065|A066|A066A|A066B|A066C",
  "1444C ANATOLIAN HIEROGLYPH:A067|A068|A069|A070|A071|A072|A073|A074|A075|A076|A077|A078|A079",
  "14459 ANATOLIAN HIEROGLYPH:A080|A081|A082|A083|A084|A085|A086|A087|A088|A089|A090|A091|A092",
  "14466 ANATOLIAN HIEROGLYPH:A093|A094|A095|A096|A097|A097A|A098|A098A|A099|A100|A100A|A101|A101A",
  "14473 ANATOLIAN HIEROGLYPH:A102|A102A|A103|A104|A104A|A104B|A104C|A105|A105A|A105B|A106|A107",
  "1447F ANATOLIAN HIEROGLYPH:A107A|A107B|A107C|A108|A109|A110|A110A|A110B|A111|A112|A113|A114",
  "1448B ANATOLIAN HIEROGLYPH:A115|A115A|A116|A117|A118|A119|A120|A121|A122|A123|A124|A125|A125A",
  "14498 ANATOLIAN HIEROGLYPH:A126|A127|A128|A129|A130|A131|A132|A133|A134|A135|A135A|A136|A137",
  "144A5 ANATOLIAN HIEROGLYPH:A138|A139|A140|A141|A142|A143|A144|A145|A146|A147|A148|A149|A150",
  "144B2 ANATOLIAN HIEROGLYPH:A151|A152|A153|A154|A155|A156|A157|A158|A159|A160|A161|A162|A163",
  "144BF ANATOLIAN HIEROGLYPH:A164|A165|A166|A167|A168|A169|A170|A171|A172|A173|A174|A175|A176",
  "144CC ANATOLIAN HIEROGLYPH:A177|A178|A179|A180|A181|A182|A183|A184|A185|A186|A187|A188|A189",
  "144D9 ANATOLIAN HIEROGLYPH:A190|A191|A192|A193|A194|A195|A196|A197|A198|A199|A200|A201|A202",
  "144E6 ANATOLIAN HIEROGLYPH:A202A|A202B|A203|A204|A205|A206|A207|A207A|A208|A209|A209A|A210|A211",
  "144F3 ANATOLIAN HIEROGLYPH:A212|A213|A214|A215|A215A|A216|A216A|A217|A218|A219|A220|A221|A222",
  "14500 ANATOLIAN HIEROGLYPH:A223|A224|A225|A226|A227|A227A|A228|A229|A230|A231|A232|A233|A234",
  "1450D ANATOLIAN HIEROGLYPH:A235|A236|A237|A238|A239|A240|A241|A242|A243|A244|A245|A246|A247",
  "1451A ANATOLIAN HIEROGLYPH:A248|A249|A250|A251|A252|A253|A254|A255|A256|A257|A258|A259|A260",
  "14527 ANATOLIAN HIEROGLYPH:A261|A262|A263|A264|A265|A266|A267|A267A|A268|A269|A270|A271|A272",
  "14534 ANATOLIAN HIEROGLYPH:A273|A274|A275|A276|A277|A278|A279|A280|A281|A282|A283|A284|A285",
  "14541 ANATOLIAN HIEROGLYPH:A286|A287|A288|A289|A289A|A290|A291|A292|A293|A294|A294A|A295|A296",
  "1454E ANATOLIAN HIEROGLYPH:A297|A298|A299|A299A|A300|A301|A302|A303|A304|A305|A306|A307|A308",
  "1455B ANATOLIAN HIEROGLYPH:A309|A309A|A310|A311|A312|A313|A314|A315|A316|A317|A318|A319|A320",
  "14568 ANATOLIAN HIEROGLYPH:A321|A322|A323|A324|A325|A326|A327|A328|A329|A329A|A330|A331|A332A",
  "14575 ANATOLIAN HIEROGLYPH:A332B|A332C|A333|A334|A335|A336|A336A|A336B|A336C|A337|A338|A339",
  "14581 ANATOLIAN HIEROGLYPH:A340|A341|A342|A343|A344|A345|A346|A347|A348|A349|A350|A351|A352",
  "1458E ANATOLIAN HIEROGLYPH:A353|A354|A355|A356|A357|A358|A359|A359A|A360|A361|A362|A363|A364",
  "1459B ANATOLIAN HIEROGLYPH:A364A|A365|A366|A367|A368|A368A|A369|A370|A371|A371A|A372|A373|A374",
  "145A8 ANATOLIAN HIEROGLYPH:A375|A376|A377|A378|A379|A380|A381|A381A|A382|A383 RA OR RI|A383A",
  "145B3 ANATOLIAN HIEROGLYPH:A384|A385|A386|A386A|A387|A388|A389|A390|A391|A392|A393 EIGHT|A394",
  "145BF ANATOLIAN HIEROGLYPH:A395|A396|A397|A398|A399|A400|A401|A402|A403|A404|A405|A406|A407",
  "145CC ANATOLIAN HIEROGLYPH:A408|A409|A410 BEGIN LOGOGRAM MARK|A410A END LOGOGRAM MARK|A411|A412",
  "145D2 ANATOLIAN HIEROGLYPH:A413|A414|A415|A416|A417|A418|A419|A420|A421|A422|A423|A424|A425",
  "145DF ANATOLIAN HIEROGLYPH:A426|A427|A428|A429|A430|A431|A432|A433|A434|A435|A436|A437|A438",
  "145EC ANATOLIAN HIEROGLYPH:A439|A440|A441|A442|A443|A444|A445|A446|A447|A448|A449|A450|A450A",
  "145F9 ANATOLIAN HIEROGLYPH:A451|A452|A453|A454|A455|A456|A457|A457A|A458|A459|A460|A461|A462",
  "14606 ANATOLIAN HIEROGLYPH:A463|A464|A465|A466|A467|A468|A469|A470|A471|A472|A473|A474|A475",
  "14613 ANATOLIAN HIEROGLYPH:A476|A477|A478|A479|A480|A481|A482|A483|A484|A485|A486|A487|A488",
  "14620 ANATOLIAN HIEROGLYPH:A489|A490|A491|A492|A493|A494|A495|A496|A497|A501|A502|A503|A504",
  "1462D ANATOLIAN HIEROGLYPH:A505|A506|A507|A508|A509|A510|A511|A512|A513|A514|A515|A516|A517",
  "1463A ANATOLIAN HIEROGLYPH:A518|A519|A520|A521|A522|A523|A524|A525|A526|A527|A528|A529|A530",
  "16800 BAMUM LETTER PHASE-A:NGKUE MFON|GBIEE FON|PON MFON PIPAEMGBIEE|PON MFON PIPAEMBA|NAA MFON",
  "16805 BAMUM LETTER PHASE-A:SHUENSHUET|TITA MFON|NZA MFON|SHINDA PA NJI|PON PA NJI PIPAEMGBIEE",
  "1680A BAMUM LETTER PHASE-A:PON PA NJI PIPAEMBA|MAEMBGBIEE|TU MAEMBA|NGANGU|MAEMVEUX|MANSUAE",
  "16810 BAMUM LETTER PHASE-A:MVEUAENGAM|SEUNYAM|NTOQPEN|KEUKEUTNDA|NKINDI|SUU|NGKUENZEUM|LAPAQ",
  "16818 BAMUM LETTER PHASE-A:LET KUT|NTAP MFAA|MAEKEUP|PASHAE|GHEUAERAE|PAMSHAE|MON NGGEUAET",
  "1681F BAMUM LETTER PHASE-A:NZUN MEUT|U YUQ NAE|GHEUAEGHEUAE|NTAP NTAA|SISA|MGBASA|MEUNJOMNDEUQ",
  "16826 BAMUM LETTER PHASE-A:MOOMPUQ|KAFA|PA LEERAEWA|NDA LEERAEWA|PET|MAEMKPEN|NIKA|PUP",
  "1682E BAMUM LETTER PHASE-A:TUAEP|LUAEP|SONJAM|TEUTEUWEN|MAENYI|KET|NDAANGGEUAET|KUOQ|MOOMEUT",
  "16837 BAMUM LETTER PHASE-A:SHUM|LOMMAE|FIRI|ROM|KPOQ|SOQ|MAP PIEET|SHIRAE|NTAP|SHOQ NSHUT YUM",
  "16841 BAMUM LETTER PHASE-A:NYIT MONGKEUAEQ|PAARAE|NKAARAE|UNKNOWN|NGGEN|MAESI|NJAM|MBANYI",
  "16849 BAMUM LETTER PHASE-A:NYET|TEUAEN|SOT|PAAM|NSHIEE|MAEM|NYI|KAQ|NSHA|VEE|LU|NEN|NAQ|MBAQ",
  "16857 BAMUM LETTER PHASE-B:NSHUET|TU MAEMGBIEE|SIEE|SET TU|LOM NTEUM|MBA MAELEE|KIEEM",
  "1685E BAMUM LETTER PHASE-B:YEURAE|MBAARAE|KAM|PEESHI|YAFU LEERAEWA|LAM NSHUT NYAM|NTIEE SHEUOQ",
  "16865 BAMUM LETTER PHASE-B:NDU NJAA|GHEUGHEUAEM|PIT|TU NSIEE|SHET NJAQ|SHEUAEQTU|MFON TEUAEQ",
  "1686C BAMUM LETTER PHASE-B:MBIT MBAAKET|NYI NTEUM|KEUPUQ|GHEUGHEN|KEUYEUX|LAANAE|PARUM|VEUM",
  "16874 BAMUM LETTER PHASE-B:NGKINDI MVOP|NGGEU MBU|WUAET|SAKEUAE|TAAM|MEUQ|NGGUOQ|NGGUOQ LARGE",
  "1687C BAMUM LETTER PHASE-B:MFIYAQ|SUE|MBEURI|MONTIEEN|NYAEMAE|PUNGAAM|MEUT NGGEET|FEUX",
  "16884 BAMUM LETTER PHASE-B:MBUOQ|FEE|KEUAEM|MA NJEUAENA|MA NJUQA|LET|NGGAAM|NSEN|MA|KIQ|NGOM",
  "1688F BAMUM LETTER PHASE-C NGKUE:MAEMBA",
  "16890 BAMUM LETTER PHASE-C:NZA|YUM|WANGKUOQ|NGGEN|NDEUAEREE|NGKAQ|GHARAE|MBEEKEET|GBAYI",
  "16899 BAMUM LETTER PHASE-C:NYIR MKPARAQ MEUN|NTU MBIT|MBEUM|PIRIEEN|NDOMBU|MBAA CABBAGE-TREE",
  "1689F BAMUM LETTER PHASE-C:KEUSHEUAEP|GHAP|KEUKAQ|YU MUOMAE|NZEUM|MBUE|NSEUAEN|MBIT",
  "168A7 BAMUM LETTER PHASE-C:YEUQ|KPARAQ|KAA|SEUX|NDIDA|TAASHAE|NJUEQ|TITA YUE|SUAET|NGGUAEN NYAM",
  "168B1 BAMUM LETTER PHASE-C:VEUX|NANSANAQ|MA KEUAERI|NTAA|NGGUON|LAP|MBIRIEEN|MGBASAQ|NTEUNGBA",
  "168BA BAMUM LETTER PHASE-C:TEUTEUX|NGGUM|FUE|NDEUT|NSA|NSHAQ|BUNG|VEUAEPEN|MBERAE|RU|NJAEM",
  "168C5 BAMUM LETTER PHASE-C:LAM|TITUAEP|NSUOT NGOM|NJEEEE|KET|NGGU|MAESI|MBUAEM|LU|KUT|NJAM",
  "168D0 BAMUM LETTER PHASE-C:NGOM|WUP|NGGUEET|NSOM|NTEN|KUOP NKAARAE|NSUN|NDAM|MA NSIEE|YAA|NDAP",
  "168DB BAMUM LETTER PHASE-C:SHUEQ|SETFON|MBI|MAEMBA|MBANYI|KEUSEUX|MBEUX|KEUM|MBAA PICKET|YUWOQ",
  "168E5 BAMUM LETTER PHASE-C:NJEUX|MIEE|MUAE|SHIQ|KEN LAW|KEN FATIGUE|NGAQ|NAQ|LIQ|PIN|PEN|TET",
  "168F1 BAMUM LETTER PHASE-D:MBUO|WAP|NJI|MFON|NJIEE|LIEE|NJEUT|NSHEE|NGGAAMAE|NYAM|WUAEN",
  "168FC BAMUM LETTER PHASE-D:NGKUN|SHEE|NGKAP|KEUAETMEUN|TEUT|SHEUAE|NJAP|SUE|KET|YAEMMAE|KUOM",
  "16907 BAMUM LETTER PHASE-D:SAP|MFEUT|NDEUX|MALEERI|MEUT|SEUAEQ|YEN|NJEUAEM|KEUOT MBUAE|NGKEURI",
  "16911 BAMUM LETTER PHASE-D:TU|GHAA|NGKYEE|FEUFEUAET|NDEE|MGBOFUM|LEUAEP|NDON|MONI|MGBEUN",
  "1691B BAMUM LETTER PHASE-D:PUUT|MGBIEE|MFO|LUM|NSIEEP|MBAA|KWAET|NYET|TEUAEN|SOT|YUWOQ|KEUM",
  "16927 BAMUM LETTER PHASE-D:RAEM|TEEEE|NGKEUAEQ|MFEUAE|NSIEET|KEUP|PIP|PEUTAE|NYUE|LET|NGGAAM",
  "16932 BAMUM LETTER PHASE-D:MFIEE|NGGWAEN|YUOM|PAP|YUOP|NDAM|NTEUM|SUAE|KUN|NGGEUX|NGKIEE|TUOT",
  "1693E BAMUM LETTER PHASE-D:MEUN|KUQ|NSUM|TEUN|MAENJET|NGGAP|LEUM|NGGUOM|NSHUT|NJUEQ|GHEUAE|KU",
  "1694A BAMUM LETTER PHASE-D:REN OLD|TAE|TOQ|NYI|RII|LEEEE|MEEEE|M|SUU|MU|SHII|SHEUX|KYEE|NU|SHU",
  "16959 BAMUM LETTER PHASE-D:NTEE|PEE|NI|SHOQ|PUQ|MVOP|LOQ|REN MUCH|TI|NTUU|MBAA SEVEN|SAQ|FAA",
  "16966 BAMUM LETTER PHASE-E:NDAP",
  "16967 BAMUM LETTER PHASE-E:TOON|MBEUM|LAP|VOM|LOON|PAA|SOM|RAQ|NSHUOP|NDUN|PUAE|TAM|NGKA|KPEUX",
  "16975 BAMUM LETTER PHASE-E:WUO|SEE|NGGEUAET|PAAM|TOO|KUOP|LOM|NSHIEE|NGOP|MAEM|NGKEUX|NGOQ",
  "16981 BAMUM LETTER PHASE-E:NSHUE|RIMGBA|NJEUX|PEEM|SAA|NGGURAE|MGBA|GHEUX|NGKEUAEM|NJAEMLI|MAP",
  "1698C BAMUM LETTER PHASE-E:LOOT|NGGEEEE|NDIQ|TAEN NTEUM|SET|PUM|NDAA SOFTNESS|NGGUAESHAE NYAM",
  "16994 BAMUM LETTER PHASE-E:YIEE|GHEUN|TUAE|YEUAE|PO|TUMAE|KEUAE|SUAEN|TEUAEQ|VEUAE|WEUX|LAAM",
  "169A0 BAMUM LETTER PHASE-E:PU|TAAQ|GHAAMAE|NGEUREUT|SHEUAEQ|MGBEN|MBEE|NZAQ|NKOM|GBET|TUM|KUET",
  "169AC BAMUM LETTER PHASE-E:YAP|NYI CLEAVER|YIT|MFEUQ|NDIAQ|PIEEQ|YUEQ|LEUAEM|FUE|GBEUX|NGKUP",
  "169B7 BAMUM LETTER PHASE-E:KET|MAE|NGKAAMI|GHET|FA|NTUM|PEUT|YEUM|NGGEUAE|NYI BETWEEN|NZUQ",
  "169C2 BAMUM LETTER PHASE-E:POON|MIEE|FUET|NAE|MUAE|GHEUAE|FU I|MVI|PUAQ|NGKUM|KUT|PIET|NTAP",
  "169CF BAMUM LETTER PHASE-E:YEUAET|NGGUP|PA PEOPLE|FU CALL|FOM|NJEE|A|TOQ|O|I|LAQ|PA PLURAL|TAA",
  "169DC BAMUM LETTER PHASE-E:TAQ|NDAA MY HOUSE|SHIQ|YEUX|NGUAE|YUAEN|YOQ SWIMMING|YOQ COVER|YUQ",
  "169E5 BAMUM LETTER PHASE-E:YUN|KEUX|PEUX|NJEE EPOCH|PUE|WUE|FEE|VEE|LU|MI|REUX|RAE|NGUAET|NGA",
  "169F3 BAMUM LETTER PHASE-E:SHO|SHOQ|FU REMEDY|NA|PI|LOQ|KO|MEN|MA|MAQ|TEU|KI|MON|TEN|FAQ|GHOM",
  "16A03 BAMUM LETTER PHASE-F:KA|U|KU|EE|REE|TAE|NYI",
  "16A0A BAMUM LETTER PHASE-F:LA|RII|RIEE|MEEEE|TAA|NDAA|NJAEM|M|SUU|SHII|SI|SEUX|KYEE|KET|NUAE|NU",
  "16A1A BAMUM LETTER PHASE-F:NJUAE|YOQ|SHU|YA|NSHA|PEUX|NTEE|WUE|PEE|RU|NI|REUX|KEN|NGKWAEN|NGGA",
  "16A29 BAMUM LETTER PHASE-F:SHO|PUAE|FOM|WA|LI|LOQ|KO|MBEN|REN|MA|MO|MBAA|TET|KPA|SAMBA|VUEQ",
  "16A40 MRO LETTER:TA|NGI|YO|MIM|BA|DA|A|PHI|KHAI",
  "16A49 MRO LETTER:HAO|DAI|CHU|KEAAE|OL|MAEM|NIN|PA|OO|O|RO|SHI|THEA|EA|WA|E|KO|LAN|LA|HAI|RI|TEK",
  "16A60 MRO DIGIT:ZERO|ONE|TWO|THREE|FOUR|FIVE|SIX|SEVEN|EIGHT|NINE",
  "16A6E MRO:DANDA|DOUBLE DANDA",
  "16A70 TANGSA LETTER:OZ|OC|OQ|OX|AZ|AC|AQ|AX|VZ|VC|VQ|VX|EZ|EC|EQ|EX|IZ|IC|IQ|IX|UZ|UC|UQ|UX|AWZ",
  "16A89 TANGSA LETTER:AWC|AWQ|AWX|UIZ|UIC|UIQ|UIX|FINAL NG|LONG UEX|SHORT UEZ|SHORT AWX|UEC|UEZ",
  "16A96 TANGSA LETTER:UEQ|UEX|UIUZ|UIUC|UIUQ|UIUX|MZ|MC|MQ|MX|KA|KHA|GA|NGA|SA|YA|WA|PA|NYA|PHA",
  "16AAA TANGSA LETTER:BA|MA|NA|HA|LA|HTA|TA|DA|RA|NHA|SHA|CA|TSA|GHA|HTTA|THA|XA|FA|DHA|CHA|ZA",
  "16AC0 TANGSA DIGIT:ZERO|ONE|TWO|THREE|FOUR|FIVE|SIX|SEVEN|EIGHT|NINE",
  "16AD0 BASSA VAH LETTER:ENNI|KA|SE|FA|MBE|YIE|GAH|DHII",
  "16AD8 BASSA VAH LETTER:KPAH|JO|HWAH|WA|ZO|GBU|DO|CE|UWU|TO|BA|VU|YEIN|PA|WADDA|A|O|OO|U|EE|E|I",
  "16AF0 BASSA VAH COMBINING:HIGH TONE|LOW TONE|MID TONE|LOW-MID TONE|HIGH-LOW TONE",
  "16AF5 BASSA VAH FULL:STOP",
  "16B00 PAHAWH HMONG VOWEL:KEEB|KEEV|KIB|KIV|KAUB|KAUV|KUB|KUV|KEB|KEV|KAIB|KAIV|KOOB",
  "16B0D PAHAWH HMONG VOWEL:KOOV|KAWB|KAWV|KUAB|KUAV|KOB|KOV|KIAB|KIAV|KAB|KAV|KWB|KWV|KAAB|KAAV",
  "16B1C PAHAWH HMONG CONSONANT:VAU|NTSAU|LAU|HAU|NLAU|RAU",
  "16B22 PAHAWH HMONG CONSONANT:NKAU|QHAU|YAU|HLAU|MAU|CHAU|NCHAU|HNAU|PLHAU|NTHAU|NAU|AU|XAU|CAU",
  "16B30 PAHAWH HMONG MARK CIM:TUB|SO|KES|KHAV|SUAM|HOM|TAUM",
  "16B37 PAHAWH HMONG SIGN:VOS THOM|VOS TSHAB CEEB|CIM CHEEM|VOS THIAB|VOS FEEM",
  "16B3C PAHAWH HMONG SIGN XYEEM:NTXIV|RHO|TOV|FAIB",
  "16B40 PAHAWH HMONG SIGN:VOS SEEV|MEEJ SUAB|VOS NRUA|IB YAM|XAUS|CIM TSOV ROG",
  "16B50 PAHAWH HMONG DIGIT:ZERO|ONE|TWO|THREE|FOUR|FIVE|SIX|SEVEN|EIGHT|NINE",
  "16B5B PAHAWH HMONG NUMBER:TENS|HUNDREDS",
  "16B5D PAHAWH HMONG NUMBER:TEN THOUSANDS|MILLIONS|HUNDRED MILLIONS|TEN BILLIONS|TRILLIONS",
  "16B63 PAHAWH HMONG SIGN:VOS LUB|XYOO|HLI|THIRD-STAGE HLI",
  "16B67 PAHAWH HMONG SIGN:ZWJ THAJ|HNUB|NQIG|XIAB|NTUJ|AV|TXHEEJ CEEV|MEEJ TSEEB|TAU|LOS|MUS",
  "16B72 PAHAWH HMONG SIGN CIM:HAIS LUS NTOG NTOG|CUAM TSHOOJ|TXWV|TXWV CHWV|PUB DAWB|NRES TOS",
  "16B7D PAHAWH HMONG CLAN SIGN:TSHEEJ|YEEG|LIS|LAUJ|XYOOJ",
  "16B82 PAHAWH HMONG CLAN SIGN:KOO|HAWJ|MUAS|THOJ|TSAB|PHAB|KHAB|HAM|VAJ|FAJ|YAJ|TSWB|KWM|VWJ",
  "16E40 MEDEFAIDRIN CAPITAL LETTER:M|S|V|W|ATIU",
  "16E45 MEDEFAIDRIN CAPITAL LETTER:Z|KP|P|T|G|F|I|K|A|J|E|B|C|U|YU|L|Q|HP|NY|X|D|OE|N|R|O|AI|Y",
  "16E60 MEDEFAIDRIN SMALL LETTER:M|S|V|W",
  "16E64 MEDEFAIDRIN SMALL LETTER:ATIU|Z|KP|P|T|G|F|I|K|A|J|E|B|C|U|YU|L|Q|HP|NY|X|D|OE|N|R|O|AI|Y",
  "16E80 MEDEFAIDRIN DIGIT:ZERO|ONE|TWO|THREE|FOUR|FIVE|SIX|SEVEN|EIGHT|NINE",
  "16E8A MEDEFAIDRIN NUMBER:TEN|ELEVEN|TWELVE|THIRTEEN|FOURTEEN|FIFTEEN|SIXTEEN|SEVENTEEN|EIGHTEEN",
  "16E93 MEDEFAIDRIN:NUMBER NINETEEN|DIGIT ONE ALTERNATE FORM|DIGIT TWO ALTERNATE FORM",
  "16E96 MEDEFAIDRIN:DIGIT THREE ALTERNATE FORM|COMMA|FULL STOP|SYMBOL AIVA|EXCLAMATION OH",
  "16F00 MIAO LETTER:PA|BA|YI PA|PLA|MA|MHA|ARCHAIC MA|FA|VA|VFA|TA|DA|YI TTA|YI TA",
  "16F0E MIAO LETTER:TTA|DDA|NA|NHA|YI NNA|ARCHAIC NA|NNA|NNHA|LA|LYA|LHA|LHYA|TLHA|DLHA|TLHYA",
  "16F1D MIAO LETTER:DLHYA|KA|GA|YI KA|QA|QGA|NGA|NGHA|ARCHAIC NGA|HA|XA|GHA|GHHA|TSSA|DZZA|NYA",
  "16F2D MIAO LETTER:NYHA|TSHA|DZHA|YI TSHA|YI DZHA|REFORMED TSHA|SHA|SSA|ZHA|ZSHA|TSA|DZA|YI TSA",
  "16F3A MIAO LETTER:SA|ZA|ZSA|ZZA|ZZSA|ARCHAIC ZZA|ZZYA|ZZSYA|WA|AH|HHA|BRI|SYI|DZYI|TE|TSE|RTE",
  "16F4F MIAO:SIGN CONSONANT MODIFIER BAR|LETTER NASALIZATION|SIGN ASPIRATION",
  "16F52 MIAO SIGN REFORMED:VOICING|ASPIRATION",
  "16F54 MIAO VOWEL SIGN:A|AA|AHH|AN|ANG|O|OO|WO|W|E|EN|ENG|OEY|I|IA|IAN",
  "16F64 MIAO VOWEL SIGN:IANG|IO|IE|II|IU|ING|U|UA|UAN|UANG|UU|UEI|UNG|Y|YI|AE|AEE|ERR|ROUNDED ERR",
  "16F77 MIAO VOWEL SIGN:ER|ROUNDED ER|AI|EI|AU|OU|N|NG|UOG|YUI|OG|OER|VW|IG|EA|IONG|UI",
  "16F8F MIAO TONE:RIGHT|TOP RIGHT|ABOVE|BELOW",
  "16F93 MIAO LETTER:TONE-2|TONE-3|TONE-4|TONE-5|TONE-6|TONE-7|TONE-8",
  "16F9A MIAO LETTER REFORMED:TONE-1|TONE-2|TONE-4|TONE-5|TONE-6|TONE-8",
  "16FE0 :TANGUT ITERATION MARK|NUSHU ITERATION MARK",
  "16FE2 OLD CHINESE:HOOK MARK|ITERATION MARK",
  "16FE4 KHITAN SMALL SCRIPT:FILLER",
  "16FF0 VIETNAMESE ALTERNATE READING MARK:CA|NHAY",
  "18800 TANGUT:COMPONENT-001|COMPONENT-002|COMPONENT-003",
  "18803 TANGUT:COMPONENT-004|COMPONENT-005|COMPONENT-006|COMPONENT-007|COMPONENT-008",
  "18808 TANGUT:COMPONENT-009|COMPONENT-010|COMPONENT-011|COMPONENT-012|COMPONENT-013",
  "1880D TANGUT:COMPONENT-014|COMPONENT-015|COMPONENT-016|COMPONENT-017|COMPONENT-018",
  "18812 TANGUT:COMPONENT-019|COMPONENT-020|COMPONENT-021|COMPONENT-022|COMPONENT-023",
  "18817 TANGUT:COMPONENT-024|COMPONENT-025|COMPONENT-026|COMPONENT-027|COMPONENT-028",
  "1881C TANGUT:COMPONENT-029|COMPONENT-030|COMPONENT-031|COMPONENT-032|COMPONENT-033",
  "18821 TANGUT:COMPONENT-034|COMPONENT-035|COMPONENT-036|COMPONENT-037|COMPONENT-038",
  "18826 TANGUT:COMPONENT-039|COMPONENT-040|COMPONENT-041|COMPONENT-042|COMPONENT-043",
  "1882B TANGUT:COMPONENT-044|COMPONENT-045|COMPONENT-046|COMPONENT-047|COMPONENT-048",
  "18830 TANGUT:COMPONENT-049|COMPONENT-050|COMPONENT-051|COMPONENT-052|COMPONENT-053",
  "18835 TANGUT:COMPONENT-054|COMPONENT-055|COMPONENT-056|COMPONENT-057|COMPONENT-058",
  "1883A TANGUT:COMPONENT-059|COMPONENT-060|COMPONENT-061|COMPONENT-062|COMPONENT-063",
  "1883F TANGUT:COMPONENT-064|COMPONENT-065|COMPONENT-066|COMPONENT-067|COMPONENT-068",
  "18844 TANGUT:COMPONENT-069|COMPONENT-070|COMPONENT-071|COMPONENT-072|COMPONENT-073",
  "18849 TANGUT:COMPONENT-074|COMPONENT-075|COMPONENT-076|COMPONENT-077|COMPONENT-078",
  "1884E TANGUT:COMPONENT-079|COMPONENT-080|COMPONENT-081|COMPONENT-082|COMPONENT-083",
  "18853 TANGUT:COMPONENT-084|COMPONENT-085|COMPONENT-086|COMPONENT-087|COMPONENT-088",
  "18858 TANGUT:COMPONENT-089|COMPONENT-090|COMPONENT-091|COMPONENT-092|COMPONENT-093",
  "1885D TANGUT:COMPONENT-094|COMPONENT-095|COMPONENT-096|COMPONENT-097|COMPONENT-098",
  "18862 TANGUT:COMPONENT-099|COMPONENT-100|COMPONENT-101|COMPONENT-102|COMPONENT-103",
  "18867 TANGUT:COMPONENT-104|COMPONENT-105|COMPONENT-106|COMPONENT-107|COMPONENT-108",
  "1886C TANGUT:COMPONENT-109|COMPONENT-110|COMPONENT-111|COMPONENT-112|COMPONENT-113",
  "18871 TANGUT:COMPONENT-114|COMPONENT-115|COMPONENT-116|COMPONENT-117|COMPONENT-118",
  "18876 TANGUT:COMPONENT-119|COMPONENT-120|COMPONENT-121|COMPONENT-122|COMPONENT-123",
  "1887B TANGUT:COMPONENT-124|COMPONENT-125|COMPONENT-126|COMPONENT-127|COMPONENT-128",
  "18880 TANGUT:COMPONENT-129|COMPONENT-130|COMPONENT-131|COMPONENT-132|COMPONENT-133",
  "18885 TANGUT:COMPONENT-134|COMPONENT-135|COMPONENT-136|COMPONENT-137|COMPONENT-138",
  "1888A TANGUT:COMPONENT-139|COMPONENT-140|COMPONENT-141|COMPONENT-142|COMPONENT-143",
  "1888F TANGUT:COMPONENT-144|COMPONENT-145|COMPONENT-146|COMPONENT-147|COMPONENT-148",
  "18894 TANGUT:COMPONENT-149|COMPONENT-150|COMPONENT-151|COMPONENT-152|COMPONENT-153",
  "18899 TANGUT:COMPONENT-154|COMPONENT-155|COMPONENT-156|COMPONENT-157|COMPONENT-158",
  "1889E TANGUT:COMPONENT-159|COMPONENT-160|COMPONENT-161|COMPONENT-162|COMPONENT-163",
  "188A3 TANGUT:COMPONENT-164|COMPONENT-165|COMPONENT-166|COMPONENT-167|COMPONENT-168",
  "188A8 TANGUT:COMPONENT-169|COMPONENT-170|COMPONENT-171|COMPONENT-172|COMPONENT-173",
  "188AD TANGUT:COMPONENT-174|COMPONENT-175|COMPONENT-176|COMPONENT-177|COMPONENT-178",
  "188B2 TANGUT:COMPONENT-179|COMPONENT-180|COMPONENT-181|COMPONENT-182|COMPONENT-183",
  "188B7 TANGUT:COMPONENT-184|COMPONENT-185|COMPONENT-186|COMPONENT-187|COMPONENT-188",
  "188BC TANGUT:COMPONENT-189|COMPONENT-190|COMPONENT-191|COMPONENT-192|COMPONENT-193",
  "188C1 TANGUT:COMPONENT-194|COMPONENT-195|COMPONENT-196|COMPONENT-197|COMPONENT-198",
  "188C6 TANGUT:COMPONENT-199|COMPONENT-200|COMPONENT-201|COMPONENT-202|COMPONENT-203",
  "188CB TANGUT:COMPONENT-204|COMPONENT-205|COMPONENT-206|COMPONENT-207|COMPONENT-208",
  "188D0 TANGUT:COMPONENT-209|COMPONENT-210|COMPONENT-211|COMPONENT-212|COMPONENT-213",
  "188D5 TANGUT:COMPONENT-214|COMPONENT-215|COMPONENT-216|COMPONENT-217|COMPONENT-218",
  "188DA TANGUT:COMPONENT-219|COMPONENT-220|COMPONENT-221|COMPONENT-222|COMPONENT-223",
  "188DF TANGUT:COMPONENT-224|COMPONENT-225|COMPONENT-226|COMPONENT-227|COMPONENT-228",
  "188E4 TANGUT:COMPONENT-229|COMPONENT-230|COMPONENT-231|COMPONENT-232|COMPONENT-233",
  "188E9 TANGUT:COMPONENT-234|COMPONENT-235|COMPONENT-236|COMPONENT-237|COMPONENT-238",
  "188EE TANGUT:COMPONENT-239|COMPONENT-240|COMPONENT-241|COMPONENT-242|COMPONENT-243",
  "188F3 TANGUT:COMPONENT-244|COMPONENT-245|COMPONENT-246|COMPONENT-247|COMPONENT-248",
  "188F8 TANGUT:COMPONENT-249|COMPONENT-250|COMPONENT-251|COMPONENT-252|COMPONENT-253",
  "188FD TANGUT:COMPONENT-254|COMPONENT-255|COMPONENT-256|COMPONENT-257|COMPONENT-258",
  "18902 TANGUT:COMPONENT-259|COMPONENT-260|COMPONENT-261|COMPONENT-262|COMPONENT-263",
  "18907 TANGUT:COMPONENT-264|COMPONENT-265|COMPONENT-266|COMPONENT-267|COMPONENT-268",
  "1890C TANGUT:COMPONENT-269|COMPONENT-270|COMPONENT-271|COMPONENT-272|COMPONENT-273",
  "18911 TANGUT:COMPONENT-274|COMPONENT-275|COMPONENT-276|COMPONENT-277|COMPONENT-278",
  "18916 TANGUT:COMPONENT-279|COMPONENT-280|COMPONENT-281|COMPONENT-282|COMPONENT-283",
  "1891B TANGUT:COMPONENT-284|COMPONENT-285|COMPONENT-286|COMPONENT-287|COMPONENT-288",
  "18920 TANGUT:COMPONENT-289|COMPONENT-290|COMPONENT-291|COMPONENT-292|COMPONENT-293",
  "18925 TANGUT:COMPONENT-294|COMPONENT-295|COMPONENT-296|COMPONENT-297|COMPONENT-298",
  "1892A TANGUT:COMPONENT-299|COMPONENT-300|COMPONENT-301|COMPONENT-302|COMPONENT-303",
  "1892F TANGUT:COMPONENT-304|COMPONENT-305|COMPONENT-306|COMPONENT-307|COMPONENT-308",
  "18934 TANGUT:COMPONENT-309|COMPONENT-310|COMPONENT-311|COMPONENT-312|COMPONENT-313",
  "18939 TANGUT:COMPONENT-314|COMPONENT-315|COMPONENT-316|COMPONENT-317|COMPONENT-318",
  "1893E TANGUT:COMPONENT-319|COMPONENT-320|COMPONENT-321|COMPONENT-322|COMPONENT-323",
  "18943 TANGUT:COMPONENT-324|COMPONENT-325|COMPONENT-326|COMPONENT-327|COMPONENT-328",
  "18948 TANGUT:COMPONENT-329|COMPONENT-330|COMPONENT-331|COMPONENT-332|COMPONENT-333",
  "1894D TANGUT:COMPONENT-334|COMPONENT-335|COMPONENT-336|COMPONENT-337|COMPONENT-338",
  "18952 TANGUT:COMPONENT-339|COMPONENT-340|COMPONENT-341|COMPONENT-342|COMPONENT-343",
  "18957 TANGUT:COMPONENT-344|COMPONENT-345|COMPONENT-346|COMPONENT-347|COMPONENT-348",
  "1895C TANGUT:COMPONENT-349|COMPONENT-350|COMPONENT-351|COMPONENT-352|COMPONENT-353",
  "18961 TANGUT:COMPONENT-354|COMPONENT-355|COMPONENT-356|COMPONENT-357|COMPONENT-358",
  "18966 TANGUT:COMPONENT-359|COMPONENT-360|COMPONENT-361|COMPONENT-362|COMPONENT-363",
  "1896B TANGUT:COMPONENT-364|COMPONENT-365|COMPONENT-366|COMPONENT-367|COMPONENT-368",
  "18970 TANGUT:COMPONENT-369|COMPONENT-370|COMPONENT-371|COMPONENT-372|COMPONENT-373",
  "18975 TANGUT:COMPONENT-374|COMPONENT-375|COMPONENT-376|COMPONENT-377|COMPONENT-378",
  "1897A TANGUT:COMPONENT-379|COMPONENT-380|COMPONENT-381|COMPONENT-382|COMPONENT-383",
  "1897F TANGUT:COMPONENT-384|COMPONENT-385|COMPONENT-386|COMPONENT-387|COMPONENT-388",
  "18984 TANGUT:COMPONENT-389|COMPONENT-390|COMPONENT-391|COMPONENT-392|COMPONENT-393",
  "18989 TANGUT:COMPONENT-394|COMPONENT-395|COMPONENT-396|COMPONENT-397|COMPONENT-398",
  "1898E TANGUT:COMPONENT-399|COMPONENT-400|COMPONENT-401|COMPONENT-402|COMPONENT-403",
  "18993 TANGUT:COMPONENT-404|COMPONENT-405|COMPONENT-406|COMPONENT-407|COMPONENT-408",
  "18998 TANGUT:COMPONENT-409|COMPONENT-410|COMPONENT-411|COMPONENT-412|COMPONENT-413",
  "1899D TANGUT:COMPONENT-414|COMPONENT-415|COMPONENT-416|COMPONENT-417|COMPONENT-418",
  "189A2 TANGUT:COMPONENT-419|COMPONENT-420|COMPONENT-421|COMPONENT-422|COMPONENT-423",
  "189A7 TANGUT:COMPONENT-424|COMPONENT-425|COMPONENT-426|COMPONENT-427|COMPONENT-428",
  "189AC TANGUT:COMPONENT-429|COMPONENT-430|COMPONENT-431|COMPONENT-432|COMPONENT-433",
  "189B1 TANGUT:COMPONENT-434|COMPONENT-435|COMPONENT-436|COMPONENT-437|COMPONENT-438",
  "189B6 TANGUT:COMPONENT-439|COMPONENT-440|COMPONENT-441|COMPONENT-442|COMPONENT-443",
  "189BB TANGUT:COMPONENT-444|COMPONENT-445|COMPONENT-446|COMPONENT-447|COMPONENT-448",
  "189C0 TANGUT:COMPONENT-449|COMPONENT-450|COMPONENT-451|COMPONENT-452|COMPONENT-453",
  "189C5 TANGUT:COMPONENT-454|COMPONENT-455|COMPONENT-456|COMPONENT-457|COMPONENT-458",
  "189CA TANGUT:COMPONENT-459|COMPONENT-460|COMPONENT-461|COMPONENT-462|COMPONENT-463",
  "189CF TANGUT:COMPONENT-464|COMPONENT-465|COMPONENT-466|COMPONENT-467|COMPONENT-468",
  "189D4 TANGUT:COMPONENT-469|COMPONENT-470|COMPONENT-471|COMPONENT-472|COMPONENT-473",
  "189D9 TANGUT:COMPONENT-474|COMPONENT-475|COMPONENT-476|COMPONENT-477|COMPONENT-478",
  "189DE TANGUT:COMPONENT-479|COMPONENT-480|COMPONENT-481|COMPONENT-482|COMPONENT-483",
  "189E3 TANGUT:COMPONENT-484|COMPONENT-485|COMPONENT-486|COMPONENT-487|COMPONENT-488",
  "189E8 TANGUT:COMPONENT-489|COMPONENT-490|COMPONENT-491|COMPONENT-492|COMPONENT-493",
  "189ED TANGUT:COMPONENT-494|COMPONENT-495|COMPONENT-496|COMPONENT-497|COMPONENT-498",
  "189F2 TANGUT:COMPONENT-499|COMPONENT-500|COMPONENT-501|COMPONENT-502|COMPONENT-503",
  "189F7 TANGUT:COMPONENT-504|COMPONENT-505|COMPONENT-506|COMPONENT-507|COMPONENT-508",
  "189FC TANGUT:COMPONENT-509|COMPONENT-510|COMPONENT-511|COMPONENT-512|COMPONENT-513",
  "18A01 TANGUT:COMPONENT-514|COMPONENT-515|COMPONENT-516|COMPONENT-517|COMPONENT-518",
  "18A06 TANGUT:COMPONENT-519|COMPONENT-520|COMPONENT-521|COMPONENT-522|COMPONENT-523",
  "18A0B TANGUT:COMPONENT-524|COMPONENT-525|COMPONENT-526|COMPONENT-527|COMPONENT-528",
  "18A10 TANGUT:COMPONENT-529|COMPONENT-530|COMPONENT-531|COMPONENT-532|COMPONENT-533",
  "18A15 TANGUT:COMPONENT-534|COMPONENT-535|COMPONENT-536|COMPONENT-537|COMPONENT-538",
  "18A1A TANGUT:COMPONENT-539|COMPONENT-540|COMPONENT-541|COMPONENT-542|COMPONENT-543",
  "18A1F TANGUT:COMPONENT-544|COMPONENT-545|COMPONENT-546|COMPONENT-547|COMPONENT-548",
  "18A24 TANGUT:COMPONENT-549|COMPONENT-550|COMPONENT-551|COMPONENT-552|COMPONENT-553",
  "18A29 TANGUT:COMPONENT-554|COMPONENT-555|COMPONENT-556|COMPONENT-557|COMPONENT-558",
  "18A2E TANGUT:COMPONENT-559|COMPONENT-560|COMPONENT-561|COMPONENT-562|COMPONENT-563",
  "18A33 TANGUT:COMPONENT-564|COMPONENT-565|COMPONENT-566|COMPONENT-567|COMPONENT-568",
  "18A38 TANGUT:COMPONENT-569|COMPONENT-570|COMPONENT-571|COMPONENT-572|COMPONENT-573",
  "18A3D TANGUT:COMPONENT-574|COMPONENT-575|COMPONENT-576|COMPONENT-577|COMPONENT-578",
  "18A42 TANGUT:COMPONENT-579|COMPONENT-580|COMPONENT-581|COMPONENT-582|COMPONENT-583",
  "18A47 TANGUT:COMPONENT-584|COMPONENT-585|COMPONENT-586|COMPONENT-587|COMPONENT-588",
  "18A4C TANGUT:COMPONENT-589|COMPONENT-590|COMPONENT-591|COMPONENT-592|COMPONENT-593",
  "18A51 TANGUT:COMPONENT-594|COMPONENT-595|COMPONENT-596|COMPONENT-597|COMPONENT-598",
  "18A56 TANGUT:COMPONENT-599|COMPONENT-600|COMPONENT-601|COMPONENT-602|COMPONENT-603",
  "18A5B TANGUT:COMPONENT-604|COMPONENT-605|COMPONENT-606|COMPONENT-607|COMPONENT-608",
  "18A60 TANGUT:COMPONENT-609|COMPONENT-610|COMPONENT-611|COMPONENT-612|COMPONENT-613",
  "18A65 TANGUT:COMPONENT-614|COMPONENT-615|COMPONENT-616|COMPONENT-617|COMPONENT-618",
  "18A6A TANGUT:COMPONENT-619|COMPONENT-620|COMPONENT-621|COMPONENT-622|COMPONENT-623",
  "18A6F TANGUT:COMPONENT-624|COMPONENT-625|COMPONENT-626|COMPONENT-627|COMPONENT-628",
  "18A74 TANGUT:COMPONENT-629|COMPONENT-630|COMPONENT-631|COMPONENT-632|COMPONENT-633",
  "18A79 TANGUT:COMPONENT-634|COMPONENT-635|COMPONENT-636|COMPONENT-637|COMPONENT-638",
  "18A7E TANGUT:COMPONENT-639|COMPONENT-640|COMPONENT-641|COMPONENT-642|COMPONENT-643",
  "18A83 TANGUT:COMPONENT-644|COMPONENT-645|COMPONENT-646|COMPONENT-647|COMPONENT-648",
  "18A88 TANGUT:COMPONENT-649|COMPONENT-650|COMPONENT-651|COMPONENT-652|COMPONENT-653",
  "18A8D TANGUT:COMPONENT-654|COMPONENT-655|COMPONENT-656|COMPONENT-657|COMPONENT-658",
  "18A92 TANGUT:COMPONENT-659|COMPONENT-660|COMPONENT-661|COMPONENT-662|COMPONENT-663",
  "18A97 TANGUT:COMPONENT-664|COMPONENT-665|COMPONENT-666|COMPONENT-667|COMPONENT-668",
  "18A9C TANGUT:COMPONENT-669|COMPONENT-670|COMPONENT-671|COMPONENT-672|COMPONENT-673",
  "18AA1 TANGUT:COMPONENT-674|COMPONENT-675|COMPONENT-676|COMPONENT-677|COMPONENT-678",
  "18AA6 TANGUT:COMPONENT-679|COMPONENT-680|COMPONENT-681|COMPONENT-682|COMPONENT-683",
  "18AAB TANGUT:COMPONENT-684|COMPONENT-685|COMPONENT-686|COMPONENT-687|COMPONENT-688",
  "18AB0 TANGUT:COMPONENT-689|COMPONENT-690|COMPONENT-691|COMPONENT-692|COMPONENT-693",
  "18AB5 TANGUT:COMPONENT-694|COMPONENT-695|COMPONENT-696|COMPONENT-697|COMPONENT-698",
  "18ABA TANGUT:COMPONENT-699|COMPONENT-700|COMPONENT-701|COMPONENT-702|COMPONENT-703",
  "18ABF TANGUT:COMPONENT-704|COMPONENT-705|COMPONENT-706|COMPONENT-707|COMPONENT-708",
  "18AC4 TANGUT:COMPONENT-709|COMPONENT-710|COMPONENT-711|COMPONENT-712|COMPONENT-713",
  "18AC9 TANGUT:COMPONENT-714|COMPONENT-715|COMPONENT-716|COMPONENT-717|COMPONENT-718",
  "18ACE TANGUT:COMPONENT-719|COMPONENT-720|COMPONENT-721|COMPONENT-722|COMPONENT-723",
  "18AD3 TANGUT:COMPONENT-724|COMPONENT-725|COMPONENT-726|COMPONENT-727|COMPONENT-728",
  "18AD8 TANGUT:COMPONENT-729|COMPONENT-730|COMPONENT-731|COMPONENT-732|COMPONENT-733",
  "18ADD TANGUT:COMPONENT-734|COMPONENT-735|COMPONENT-736|COMPONENT-737|COMPONENT-738",
  "18AE2 TANGUT:COMPONENT-739|COMPONENT-740|COMPONENT-741|COMPONENT-742|COMPONENT-743",
  "18AE7 TANGUT:COMPONENT-744|COMPONENT-745|COMPONENT-746|COMPONENT-747|COMPONENT-748",
  "18AEC TANGUT:COMPONENT-749|COMPONENT-750|COMPONENT-751|COMPONENT-752|COMPONENT-753",
  "18AF1 TANGUT:COMPONENT-754|COMPONENT-755|COMPONENT-756|COMPONENT-757|COMPONENT-758",
  "18AF6 TANGUT:COMPONENT-759|COMPONENT-760|COMPONENT-761|COMPONENT-762|COMPONENT-763",
  "18AFB TANGUT:COMPONENT-764|COMPONENT-765|COMPONENT-766|COMPONENT-767|COMPONENT-768",
  "1AFF0 KATAKANA LETTER MINNAN:TONE-2|TONE-3|TONE-4|TONE-5",
  "1AFF5 KATAKANA LETTER MINNAN:TONE-7|TONE-8",
  "1AFF7 KATAKANA LETTER MINNAN NASALIZED:TONE-1|TONE-2|TONE-3|TONE-4|TONE-5",
  "1AFFD KATAKANA LETTER MINNAN NASALIZED:TONE-7|TONE-8",
  "1B000 :KATAKANA LETTER ARCHAIC E|HIRAGANA LETTER ARCHAIC YE",
  "1B002 HENTAIGANA LETTER:A-1|A-2|A-3|A-WO|I-1",
  "1B007 HENTAIGANA LETTER:I-2|I-3|I-4|U-1|U-2|U-3|U-4|U-5|E-2|E-3|E-4|E-5|E-6|O-1|O-2|O-3|KA-1",
  "1B018 HENTAIGANA LETTER:KA-2|KA-3|KA-4|KA-5|KA-6|KA-7|KA-8|KA-9|KA-10|KA-11|KA-KE|KI-1|KI-2",
  "1B025 HENTAIGANA LETTER:KI-3|KI-4|KI-5|KI-6|KI-7|KI-8|KU-1|KU-2|KU-3|KU-4|KU-5|KU-6|KU-7|KE-1",
  "1B033 HENTAIGANA LETTER:KE-2|KE-3|KE-4|KE-5|KE-6|KO-1|KO-2|KO-3|KO-KI|SA-1|SA-2|SA-3|SA-4|SA-5",
  "1B041 HENTAIGANA LETTER:SA-6|SA-7|SA-8|SI-1|SI-2|SI-3|SI-4|SI-5|SI-6|SU-1|SU-2|SU-3|SU-4|SU-5",
  "1B04F HENTAIGANA LETTER:SU-6|SU-7|SU-8|SE-1|SE-2|SE-3|SE-4|SE-5|SO-1|SO-2|SO-3|SO-4|SO-5|SO-6",
  "1B05D HENTAIGANA LETTER:SO-7|TA-1|TA-2|TA-3|TA-4|TI-1|TI-2|TI-3|TI-4|TI-5|TI-6|TI-7|TU-1|TU-2",
  "1B06B HENTAIGANA LETTER:TU-3|TU-4|TU-TO|TE-1|TE-2|TE-3|TE-4|TE-5|TE-6|TE-7|TE-8|TE-9|TO-1|TO-2",
  "1B079 HENTAIGANA LETTER:TO-3|TO-4|TO-5|TO-6|TO-RA|NA-1|NA-2|NA-3|NA-4|NA-5|NA-6|NA-7|NA-8|NA-9",
  "1B087 HENTAIGANA LETTER:NI-1|NI-2|NI-3|NI-4|NI-5|NI-6|NI-7|NI-TE|NU-1|NU-2|NU-3|NE-1|NE-2|NE-3",
  "1B095 HENTAIGANA LETTER:NE-4|NE-5|NE-6|NE-KO|NO-1|NO-2|NO-3|NO-4|NO-5|HA-1|HA-2|HA-3|HA-4|HA-5",
  "1B0A3 HENTAIGANA LETTER:HA-6|HA-7|HA-8|HA-9|HA-10|HA-11|HI-1|HI-2|HI-3|HI-4|HI-5|HI-6|HI-7|HU-1",
  "1B0B1 HENTAIGANA LETTER:HU-2|HU-3|HE-1|HE-2|HE-3|HE-4|HE-5|HE-6|HE-7|HO-1|HO-2|HO-3|HO-4|HO-5",
  "1B0BF HENTAIGANA LETTER:HO-6|HO-7|HO-8|MA-1|MA-2|MA-3|MA-4|MA-5|MA-6|MA-7|MI-1|MI-2|MI-3|MI-4",
  "1B0CD HENTAIGANA LETTER:MI-5|MI-6|MI-7|MU-1|MU-2|MU-3|MU-4|ME-1|ME-2|ME-MA|MO-1|MO-2|MO-3|MO-4",
  "1B0DB HENTAIGANA LETTER:MO-5|MO-6|YA-1|YA-2|YA-3|YA-4|YA-5|YA-YO|YU-1|YU-2|YU-3|YU-4|YO-1|YO-2",
  "1B0E9 HENTAIGANA LETTER:YO-3|YO-4|YO-5|YO-6|RA-1|RA-2|RA-3|RA-4|RI-1|RI-2|RI-3|RI-4|RI-5|RI-6",
  "1B0F7 HENTAIGANA LETTER:RI-7|RU-1|RU-2|RU-3|RU-4|RU-5|RU-6|RE-1|RE-2|RE-3|RE-4|RO-1|RO-2|RO-3",
  "1B105 HENTAIGANA LETTER:RO-4|RO-5|RO-6|WA-1|WA-2|WA-3|WA-4|WA-5|WI-1|WI-2|WI-3|WI-4|WI-5|WE-1",
  "1B113 HENTAIGANA LETTER:WE-2|WE-3|WE-4|WO-1|WO-2|WO-3|WO-4|WO-5|WO-6|WO-7|N-MU-MO-1|N-MU-MO-2",
  "1B11F HIRAGANA LETTER ARCHAIC:WU",
  "1B120 KATAKANA LETTER ARCHAIC:YI|YE|WU",
  "1B150 HIRAGANA LETTER SMALL:WI|WE|WO",
  "1B164 KATAKANA LETTER SMALL:WI|WE|WO|N",
  "1BC00 DUPLOYAN LETTER:H|X|P|T|F|K|L|B|D|V|G|R|P N|D S|F N|K M|R S|TH|SLOAN DH|DH|KK",
  "1BC15 DUPLOYAN LETTER:SLOAN J|HL|LH|RH|M|N|J|S|M N|N M|J M|S J|M WITH DOT|N WITH DOT|J WITH DOT",
  "1BC24 DUPLOYAN LETTER:J WITH DOTS INSIDE AND ABOVE|S WITH DOT|S WITH DOT BELOW|M S|N S|J S",
  "1BC2A DUPLOYAN LETTER:S S|M N S|N M S|J M S|S J S|J S WITH DOT|J N|J N S|S T|S T R|S P|S P R",
  "1BC36 DUPLOYAN LETTER:T S|T R S|W|WH|W R|S N|S M|K R S|G R S|S K|S K R|A|SLOAN OW|OA|O|AOU",
  "1BC46 DUPLOYAN LETTER:I|E|IE|SHORT I|UI|EE|SLOAN EH|ROMANIAN I|SLOAN EE|LONG I|YE|U|EU|XW|U N",
  "1BC55 DUPLOYAN LETTER:LONG U|ROMANIAN U|UH|SLOAN U|OOH|OW|OU|WA|WO|WI|WEI|WOW|NASAL U|NASAL O",
  "1BC63 DUPLOYAN LETTER:NASAL I|NASAL A|PERNIN AN|PERNIN AM|SLOAN EN|SLOAN AN|SLOAN ON|VOCALIC M",
  "1BC70 DUPLOYAN AFFIX LEFT HORIZONTAL:SECANT",
  "1BC71 DUPLOYAN AFFIX:MID HORIZONTAL SECANT|RIGHT HORIZONTAL SECANT|LOW VERTICAL SECANT",
  "1BC74 DUPLOYAN AFFIX:MID VERTICAL SECANT|HIGH VERTICAL SECANT|ATTACHED SECANT",
  "1BC77 DUPLOYAN AFFIX ATTACHED:LEFT-TO-RIGHT SECANT|TANGENT|TAIL|E HOOK|I HOOK|TANGENT HOOK",
  "1BC80 DUPLOYAN AFFIX HIGH:ACUTE|TIGHT ACUTE|GRAVE|LONG GRAVE|DOT|CIRCLE|LINE|WAVE|VERTICAL",
  "1BC90 DUPLOYAN AFFIX LOW:ACUTE|TIGHT ACUTE|GRAVE|LONG GRAVE|DOT|CIRCLE|LINE|WAVE|VERTICAL|ARROW",
  "1BC9C DUPLOYAN SIGN O WITH:CROSS",
  "1BC9D DUPLOYAN:THICK LETTER SELECTOR|DOUBLE MARK|PUNCTUATION CHINOOK FULL STOP",
  "1BCA0 SHORTHAND FORMAT:LETTER OVERLAP|CONTINUING OVERLAP|DOWN STEP|UP STEP"]

end Conform.Text.CharacterName
