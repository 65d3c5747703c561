/-!
# Names of letters of alphabets that are no longer used, and of some others

The names that Unicode gives to characters, run by run: each after the other from the first one
of the run.  A mark at the start of a name says how many words it has in common with the one
before it, and small letters stand for common words.
-/

namespace Tweaks.Text

/-- The names of letters of alphabets that are no longer used, and of some others. -/
def ancientNames : List (Nat × List String) := [
  (0x10000, ["LINEAR BvyB008 A;$B038 E;$B028 I;$B061 O;$B010 U;$B001 DA;$B045 DE;$B007 DI;",
    "$B014 DO;$B051 DU;$B057 JA;$B046 JE;;$B036 JO;$B065 JU;$B077 KA;$B044 KE;$B067 KI;$B070 KO;",
    "$B081 KU;$B080 MA;$B013 ME;$B073 MI;$B015 MO;$B023 MU;$B006 NA;$B024 NE;$B030 NI;$B052 NO;",
    "$B055 NU;$B003 PA;$B072 PE;$B039 PI;$B011 PO;$B050 PU;$B016 QA;$B078 QE;$B021 QI;$B032 QO;;",
    "$B060 RA;$B027 RE;$B053 RI;$B002 RO;$B026 RU;$B031 SA;$B009 SE;$B041 SI;$B012 SO;$B058 SU;",
    "$B059 TA;$B004 TE;$B037 TI;$B005vt;$B069 TU;$B054 WA;$B075 WE;$B040 WI;$B042 WO;;$B017 ZA;",
    "$B074 ZE;;$B020 ZO;$B025 A2;$B043 A3;$B085 AU;$B071 DWE;$B090 DWO;$B048 NWA;$B029 PU2;",
    "$B062 PTE;$B076 RA2;$B033 RA3;$B068 RO2;$B066 TA2;$B087 TWE;$B091pj;;;#ohB018;$B019;$B022;",
    "$B034;$B047;$B049;$B056;$B063;$B064;$B079;$B082;$B083;$B086;$B089"]),
  (0x10080, ["LINEAR B IDEOGRAM B100 MAN;$B102 WOMAN;$B104 DEER;$B105 EQUID;$B105F MARE;",
    "$B105M STALLION;$B106F EWE;$B106M RAM;$B107F SHE-GOAT;$B107M HE-GOAT;$B108F SOW;",
    "$B108M BOAR;$B109F COW;$B109M BULL;$B120 WHEAT;$B121 BARLEY;$B122 OLIVE;$B123 SPICE;",
    "$B125 CYPERUS;#MONOGRAM B127 KAPO;$B128 KANAKO;#IDEOGRAM B130 OIL;$B131 WINE;$B132;",
    "#MONOGRAM B133 AREPA;$B135 MERI;#IDEOGRAM B140 BRONZE;$B141 GOLD;$B142;$B145 WOOL;$B146;",
    "$B150;$B151yg;$B152;$B153;$B154;#MONOGRAM B156 TURO2;#IDEOGRAM B157;$B158;$B159 CLOTH;",
    "$B160;$B161;$B162 GARMENT;$B163 ARMOUR;$B164;$B165;$B166;$B167;$B168;$B169;$B170;$B171;",
    "$B172;$B173 MONTH;$B174;$B176 TREE;$B177;$B178;$B179;$B180;$B181;$B182;$B183;$B184;$B185;",
    "$B189;$B190;$B191 HELMET;$B220 FOOTSTOOL;$B225 BATHTUB;$B230 SPEAR;$B231f;$B232;",
    "$B233 SWORD;$B234;$B236;$B240 WHEELED CHARIOT;$B241 CHARIOT;$B242 CHARIOT FRAME;",
    "$B243 WHEEL;$B245;$B246;#MONOGRAM B247 DIPTE;#IDEOGRAM B248;$B249;$B251;$B252;$B253;",
    "$B254 DART;$B255;$B256;$B257;$B258;$B259;$VESSEL B155;%B200;%B201;%B202;%B203;%B204;%B205;",
    "%B206;%B207;%B208;%B209;%B210;%B211;%B212;%B213;%B214;%B215;%B216;%B217;%B218;%B219;%B221;",
    "%B222;%B226;%B227;%B228;%B229;%B250;%B305"]),
  (0x10100, ["AEGEAN WORDtftq;$pn;!CHECKoq"]),
  (0x10107, ["AEGEANrepk;#pj;#of;#pd;#ph;#rt;#pi;#pa;#ql;#vo;#tb;#xc;#FORTY;#wb;#SIXTY;#sw;",
    "#EIGHTY;#tn;#pkon;#pjon;#ofon;#pdon;#phon;#rton;#pion;#paon;#qlon;#pkop;#pjop;#ofop;#pdop;",
    "#phop;#rtop;#piop;#paop;#qlop;#voop;#tbop;#xcop;#FORTYop;#wbop;#SIXTYop;#swop;#EIGHTYop;",
    "#tnop;;;;!WEIGHT BASE UNIT;#FIRST SUBUNIT;#SECOND SUBUNIT;#THIRD SUBUNIT;#FOURTH SUBUNIT;",
    "!DRY MEASURE FIRST SUBUNIT;!LIQUID MEASURE FIRST SUBUNIT;!MEASURE SECOND SUBUNIT;",
    "#THIRD SUBUNIT;xvACROPHONIC ATTICpkte;%qh;%DRACHMA;$ph;$wb;$phon;%op;$wbop;$phTALENTS;",
    "$voTALENTS;$wbTALENTS;$pkonTALENTS;$phonTALENTS;$pkopTALENTS;$phopTALENTS;%STATERS;",
    "$voSTATERS;$wbSTATERS;$pkonSTATERS;$phonSTATERS;$pkopSTATERS;$voopSTATERS;$wbopSTATERS;",
    "$voMNAS;#HERAEUMpkPLETHRON;#THESPIANpk;#HERMIONIANpk;#EPIDAUREANpj;#THESPIANpj;",
    "#CYRENAICpjDRACHMAS;#EPIDAUREANpjDRACHMAS;#TROEZENIANph;$vo;%tje;#HERMIONIANvo;",
    "#MESSENIANvo;#THESPIANvo;$xc;#TROEZENIANwb;%tje;#HERMIONIANwb;#THESPIANwb;$pkon;$ofon;",
    "#EPIDAUREANphon;#TROEZENIANphon;#THESPIANphon;#CARYSTIANphon;#NAXIANphon;#THESPIANpkop;",
    "$phop;#DELPHICphMNAS;#STRATIANwbMNAS;!pkqhg;%tje;!pjTHIRDSg;!ofxig;!YEARg;!TALENTg;",
    "!DRACHMAg;!OBOLg;!pjOBOLSg;!ofOBOLSg;!pdOBOLSg;!phOBOLSg;!METRETESg;!KYATHOS BASEg;!LITRAg;",
    "!OUNKIAg;!XESTESg;!ARTABEg;!AROURAg;!GRAMMAg;!TRYBLION BASEg;!rxg;!pkteg;!SINUSOIDg;",
    "!INDICTIONg;NOMISMAg;;ROMAN SEXTANSg;!UNCIAg;!SEMUNCIAg;!SEXTULAg;!DIMIDIA SEXTULAg;",
    "!SILIQUAg;!DENARIUSg;!QUINARIUSg;!SESTERTIUSg;!DUPONDIUSg;!ASg;!CENTURIALg;ASCIAoh;;;;",
    "xvohTAU RHO"]),
  (0x101d0, ["PHAISTOS DISCgPEDESTRIAN;$PLUMED HEAD;$TATTOOED HEAD;$CAPTIVE;$CHILD;$WOMAN;",
    "$HELMET;$GAUNTLET;$TIARA;$f;$BOW;$SHIELD;$CLUB;$MANACLES;$MATTOCK;$SAW;$LID;$BOOMERANG;",
    "$CARPENTRY PLANE;$DOLIUM;$COMB;$SLING;$COLUMN;$BEEHIVE;$SHIP;$yg;$HIDE;$BULLS LEG;$CAT;",
    "$RAM;$EAGLE;$DOVE;$TUNNY;$BEE;$PLANE TREE;$VINE;$PAPYRUS;$ROSETTE;$LILY;$OX BACK;$FLUTE;",
    "$GRATER;$STRAINER;$dAXE;$WAVY BAND;$rayoog"]),
  (0x10280, ["LYCIANaA;#E;#B;#BH;#G;#D;#I;#W;#Z;#TH;#J;#K;#Q;#L;#M;#N;#MM;#NN;#U;#P;#KK;#R;#S;",
    "#T;#TT;#AN;#EN;#H;#X;;;;CARIANaA;#P2;#D;#L;#UUU;#R;#LD;#A2;#Q;#B;#M;#O;#D2;#T;#SH;#SH2;#S;",
    "#C-18;#U;#NN;#X;#N;#TT2;#P;#SS;#I;#E;#UUUU;#K;#K2;#ND;#UU;#G;#G2;#ST;#ST2;#NG;#II;#C-39;",
    "#TT;#UUU2;#RR;#MB;#MB2;#MB3;#MB4;#LD2;#E2;#UUU3"]),
  (0x102e0, ["vvEPACT THOUSANDSoq;#qepk;$pj;$of;$pd;$ph;$rt;$pi;$pa;$ql;#revo;$tb;$xc;$FORTY;",
    "$wb;$SIXTY;$sw;$EIGHTY;$tn;$pkon;$pjon;$ofon;$pdon;$phon;$rton;$pion;$paon;$qlon"]),
  (0x10300, ["yaITALICaA;$BE;$KE;$DE;$E;$VE;$ZE;$HE;$THE;$I;$KA;$EL;$EM;$EN;$ESH;$O;$PE;$SHE;",
    "$KU;$ER;$ES;$TE;$U;$EKS;$PHE;$KHE;$EF;$ERS;$CHE;$II;$UU;$ESS;#NUMERALpk;$ph;$vo;$wb"]),
  (0x1032d, ["yaITALICaYE;$NORTHERN TSE;$SOUTHERN TSE;GOTHICaAHSA;#BAIRKAN;#GIBA;#DAGS;#AIHVUS;",
    "#QAIRTHRA;#IUJA;#HAGL;#THIUTH;#EIS;#KUSMA;#LAGUS;#MANNA;#NAUTHS;#JER;#URUS;#PAIRTHRA;#tn;",
    "#RAIDA;#SAUIL;#TEIWS;#WINJA;#FAIHU;#IGGWS;#HWAIR;#OTHAL;#qlon"]),
  (0x10350, ["yaPERMICaAN;$BUR;$GAI;$DOI;$E;$ZHOI;$DZHOI;$ZATA;$DZITA;$I;$KOKE;$LEI;$MENOE;",
    "$NENOE;$VOOI;$PEEI;$REI;$SII;$TAI;$U;$CHERY;$SHOOI;$SHCHOOI;$YRY;$YERU;$O;$OO;$EF;$HA;",
    "$TSIU;$VER;$YER;$YERI;$YAT;$IE;$YU;$YA;$IA;rayaPERMICaAN;%DOI;%ZATA;%NENOE;%SII"]),
  (0x10380, ["UGARITICaALPA;#BETA;#GAMLA;#xe;#DELTA;#HO;#WO;#ZETA;#HOTA;#TET;#YOD;#KAF;#zk;",
    "#LAMDA;#MEM;#DHAL;#NUN;#ZU;#SAMKA;#AIN;#PU;#SADE;#QOPA;#RASHA;#THANNA;#GHAIN;#vt;#I;#U;",
    "#SSU;;!WORD DIVIDER;yaPERSIANgA;$I;$U;$KA;$KU;$GA;$GU;$XA;$CA;$JA;$JI;$TA;$TU;$DA;$DI;$DU;",
    "$xr;$PA;$BA;$FA;$NA;$NU;$MA;$MI;$MU;$YA;$VA;$VI;$RA;$RU;$LA;$SA;$ZA;$wf;$SSA;$HA"]),
  (0x103c8, ["yaPERSIANgAURAMAZDAA;$AURAMAZDAA-2;$AURAMAZDAAHA;$XSHAAYATHIYA;$DAHYAAUSH;",
    "$DAHYAAUSH-2;$BAGA;$BUUMISH;#WORD DIVIDER;#repk;$pj;$vo;$tb;$on"]),
  (0x10400, ["DESERETcasjI;%E;%A;%AH;%O;%OO;$tdI;%E;%A;%AH;%O;%OO;$AY;$OW;$WU;$YEE;$H;$PEE;$BEE;",
    "$TEE;$DEE;$CHEE;$JEE;$KAY;$GAY;$EF;$VEE;$ETH;$THEE;$ES;$ZEE;$ESH;$ZHEE;$ER;$EL;$EM;$EN;",
    "$ENG;$OI;$EW;!dasjI;%E;%A;%AH;%O;%OO;$tdI;%E;%A;%AH;%O;%OO;$AY;$OW;$WU;$YEE;$H;$PEE;$BEE;",
    "$TEE;$DEE;$CHEE;$JEE;$KAY;$GAY;$EF;$VEE;$ETH;$THEE;$ES;$ZEE;$ESH;$ZHEE;$ER;$EL;$EM;$EN;",
    "$ENG;$OI;$EW;SHAVIANaPEEP;#TOT;#KICK;#FEE;#THIGH;#SO;#SURE;#CHURCH;#YEA;#HUNG;#BIB;#DEAD;",
    "#GAG;#VOW;#THEY;#ZOO;#MEASURE;#JUDGE;#WOE;#HA-HA;#LOLL;#MIME;#IF;#EGG;#ASH;#ADO;#ON;#WOOL;",
    "#OUT;#AH;#ROAR;#NUN;#EAT;#AGE;#ICE;#yt;#OAK;#OOZE;#OIL;#AWE;#ARE;#OR;#AIR;#ERR;#ARRAY;#EAR;",
    "#IAN;#YEW;OSMANYAarj;#BA;#TA;#JA;#XA;#xe;#DEEL;#RA;#SA;#SHIIN;#zr;#CAYN;#GA;#FA;#QAAF;",
    "#KAAF;#LAAN;#MIIN;#NUUN;#WAW;#HA;#YA;#A;#E;#I;#O;#U;#AA;#EE;#OO;;;!qerx;#pk;#pj;#of;#pd;",
    "#ph;#rt;#pi;#pa;#ql"]),
  (0x104b0, ["OSAGEcaA;$AI;$AIN;$AH;$BRA;$wx;$EHCHA;$E;$EIN;$HA;$HYA;$I;$KA;$EHKA;$KYA;$LA;$MA;",
    "$NA;$O;$OIN;$PA;$EHPA;$SA;$wf;$TA;$EHTA;$TSA;$EHTSA;$TSHA;$zr;$U;$WA;$xe;$GHA;$ZA;$ZHA"]),
  (0x104d8, ["OSAGEdaA;$AI;$AIN;$AH;$BRA;$wx;$EHCHA;$E;$EIN;$HA;$HYA;$I;$KA;$EHKA;$KYA;$LA;$MA;",
    "$NA;$O;$OIN;$PA;$EHPA;$SA;$wf;$TA;$EHTA;$TSA;$EHTSA;$TSHA;$zr;$U;$WA;$xe;$GHA;$ZA;$ZHA"]),
  (0x10500, ["ELBASANaA;#BE;#CE;#CHE;#DE;#NDE;#DHE;#EI;#E;#FE;#GE;#GJE;#HE;#I;#JE;#KE;#LE;#LLE;",
    "#ME;#NE;#NA;#NJE;#O;#PE;#QE;#RE;#RRE;#SE;#SHE;#TE;#THE;#U;#VE;#XE;#Y;#ZE;#ZHE;#GHE;#GHAMMA;",
    "#KHE"]),
  (0x10530, ["CAUCASIAN ALBANIANaALT;$BET;$GIM;$DAT;$EB;$ZARL;$EYN;$ZHIL;$TAS;$wx;$YOWD;$ZHA;",
    "$IRB;$wf;$LAN;$INYA;$XEYN;$DYAN;$CAR;$JHOX;$KAR;$LYIT;$HEYT;$QAY;$AOR;$CHOY;$CHI;$CYAY;",
    "$MAQ;$QAR;$NOWC;$DZYAY;$SHAK;$JAYN;$ON;$TYAY;$FAM;$DZAY;$CHAT;$PEN;$GHEYS;$RAT;$SEYK;$VEYZ;",
    "$TIWR;$SHOY;$IWN;$CYAW;$CAYN;$YAYD;$PIWR;$KIW"]),
  (0x1056f, ["CAUCASIAN ALBANIAN CITATIONoq;VITHKUQIcaA;$BBE;$BE;$CE;$CHE;$DE;$DHE;$EI;$E;$FE;",
    "$GA;;$HA;$HHA;$I;$IJE;$JE;$KA;$LA;$LLA;$ME;$NE;$NJE;$O;$PE;$QA;$RE;;$SE;$SHE;$TE;$THE;$U;",
    "$VE;$XE;;$Y;$ZE;;!daA;$BBE;$BE;$CE;$CHE;$DE;$DHE;$EI;$E;$FE;$GA;;$HA;$HHA;$I;$IJE;$JE;$KA;",
    "$LA;$LLA;$ME;$NE;$NJE;$O;$PE;$QA;$RE;;$SE;$SHE;$TE;$THE;$U;$VE;$XE;;$Y;$ZE"]),
  (0x10600, ["LINEAR AgAB001;$AB002;$AB003;$AB004;$AB005;$AB006;$AB007;$AB008;$AB009;$AB010;",
    "$AB011;$AB013;$AB016;$AB017;$AB020;$AB021;$AB021F;$AB021M;$AB022;$AB022F;$AB022M;$AB023;",
    "$AB023M;$AB024;$AB026;$AB027;$AB028;$A028B;$AB029;$AB030;$AB031;$AB034;$AB037;$AB038;",
    "$AB039;$AB040;$AB041;$AB044;$AB045;$AB046;$AB047;$AB048;$AB049;$AB050;$AB051;$AB053;$AB054;",
    "$AB055;$AB056;$AB057;$AB058;$AB059;$AB060;$AB061;$AB065;$AB066;$AB067;$AB069;$AB070;$AB073;",
    "$AB074;$AB076;$AB077;$AB078;$AB079;$AB080;$AB081;$AB082;$AB085;$AB086;$AB087;$A100-102;",
    "$AB118;$AB120;$A120B;$AB122;$AB123;$AB131A;$AB131B;$A131C;$AB164;$AB171;$AB180;$AB188;",
    "$AB191;$A301;$A302;$A303;$A304;$A305;$A306;$A307;$A308;$A309A;$A309B;$A309C;$A310;$A311;",
    "$A312;$A313A;$A313B;$A313C;$A314;$A315;$A316;$A317;$A318;$A319;$A320;$A321;$A322;$A323;",
    "$A324;$A325;$A326;$A327;$A328;$A329;$A330;$A331;$A332;$A333;$A334;$A335;$A336;$A337;$A338;",
    "$A339;$A340;$A341;$A342;$A343;$A344;$A345;$A346;$A347;$A348;$A349;$A350;$A351;$A352;$A353;",
    "$A354;$A355;$A356;$A357;$A358;$A359;$A360;$A361;$A362;$A363;$A364;$A365;$A366;$A367;$A368;",
    "$A369;$A370;$A371;$A400-VAS;$A401-VAS;$A402-VAS;$A403-VAS;$A404-VAS;$A405-VAS;$A406-VAS;",
    "$A407-VAS;$A408-VAS;$A409-VAS;$A410-VAS;$A411-VAS;$A412-VAS;$A413-VAS;$A414-VAS;$A415-VAS;",
    "$A416-VAS;$A417-VAS;$A418-VAS;$A501;$A502;$A503;$A504;$A505;$A506;$A508;$A509;$A510;$A511;",
    "$A512;$A513;$A515;$A516;$A520;$A521;$A523;$A524;$A525;$A526;$A527;$A528;$A529;$A530;$A531;",
    "$A532;$A534;$A535;$A536;$A537;$A538;$A539;$A540;$A541;$A542;$A545;$A547;$A548;$A549;$A550;",
    "$A551;$A552;$A553;$A554;$A555;$A556;$A557;$A559;$A563;$A564;$A565;$A566;$A568;$A569;$A570;",
    "$A571;$A572;$A573;$A574;$A575;$A576;$A577;$A578;$A579;$A580;$A581;$A582;$A583;$A584;$A585;",
    "$A586;$A587;$A588;$A589;$A591;$A592;$A594;$A595;$A596;$A598;$A600;$A601;$A602;$A603;$A604;",
    "$A606;$A608;$A609;$A610;$A611;$A612;$A613;$A614;$A615;$A616;$A617;$A618;$A619;$A620;$A621;",
    "$A622;$A623;$A624;$A626;$A627;$A628;$A629;$A634;$A637;$A638;$A640;$A642;$A643;$A644;$A645;",
    "$A646;$A648;$A649;$A651;$A652;$A653;$A654;$A655;$A656;$A657;$A658;$A659;$A660;$A661;$A662;",
    "$A663;$A664"]),
  (0x10740, ["LINEAR AgA701 A;$A702 B;$A703 D;$A704 E;$A705 F;$A706 H;$A707 J;$A708 K;$A709 L;",
    "$A709-2 L2;$A709-3 L3;$A709-4 L4;$A709-6 L6;$A710 W;$A711 X;$A712 Y;$A713ux;$A714 ABB;",
    "$A715 BB;$A717 DD;$A726 EYYY;$A732 JE"]),
  (0x10760, ["LINEAR AgA800;$A801;$A802;$A803;$A804;$A805;$A806;$A807"]),
  (0x10780, ["sradcAA;#vnsxwg;$qhsxwg;#dAE;$cB;$Bbpe;;$DZue;&bqqpe;(CURL;$DEZHue;$Dbus;&pe;",
    "(ojus;$pgE;$typgseE;$FENGue;$RAMSyg;$cG;$Gbpe;$cGbpe;$Hbog;$cH;$HENGbpe;$yzJbogojpe;$LSue;",
    "$LZue;$LbBELT;$cLbBELT;$LbqqpeojBELT;$LEZH;%bqqpe;$pzY;&bBELT;$Obog;$cOE;$tyux;$Q;",
    "$pzRbsjLEG;*ojqqpe;$Rbus;&FISHHOOK;$cR;$TCuebCURL;$TSue;&bqqpe;$TESHue;$Tbqqpe;$Vbhpe;;$cY;",
    "#uftabog;#pguftabog;#BILABIAL CLICK;#DENTAL CLICK;#LATERAL CLICK;#ALVEOLAR CLICK;",
    "#qqCLICKbqqpe;#dSbCURL"]),
  (0x10800, ["CYPRIOTvyA;#E;#I;#O;#U;#JA;;;#JO;;#KA;#KE;#KI;#KO;#KU;#LA;#LE;#LI;#LO;#LU;#MA;#ME;",
    "#MI;#MO;#MU;#NA;#NE;#NI;#NO;#NU;#PA;#PE;#PI;#PO;#PU;#RA;#RE;#RI;#RO;#RU;#SA;#SE;#SI;#SO;",
    "#SU;#TA;#TE;#TI;#vt;#TU;#WA;#WE;#WI;#WO;;#XA;#XE;;;;#ZA;;;#ZO;IMPERIAL ARAMAICaALEPH;$BETH;",
    "$GIMEL;$DALETH;$HE;$WAW;$ZAYIN;$HETH;$TETH;$YODH;$KAPH;$LAMEDH;$MEM;$NUN;$zu;$AYIN;$PE;",
    "$SADHE;$QOPH;$RESH;$zk;$TAW;;#vbg;#repk;$pj;$of;$vo;$tb;$pkon;%op;$voop;PALMYRENEaALEPH;",
    "#BETH;#GIMEL;#DALETH;#HE;#WAW;#ZAYIN;#HETH;#TETH;#YODH;#KAPH;#LAMEDH;#MEM;#nNUN;#NUN;#zu;",
    "#AYIN;#PE;#SADHE;#QOPH;#RESH;#zk;#TAW;!rsFLEURON;!quFLEURON;!repk;#pj;#of;#pd;#ph;#vo;#tb;",
    "NABATAEANanALEPH;#ALEPH;#nBETH;#BETH;#GIMEL;#DALETH;#nHE;#HE;#WAW;#ZAYIN;#HETH;#TETH;",
    "#nYODH;#YODH;#nKAPH;#KAPH;#nLAMEDH;#LAMEDH;#nMEM;#MEM;#nNUN;#NUN;#zu;#AYIN;#PE;#SADHE;",
    "#QOPH;#RESH;#nzk;#zk;#TAW"]),
  (0x108a7, ["NABATAEANrepk;#pj;#of;#pd;!CRUCIFORMrepd;!reph;#vo;#tb;#pkon"]),
  (0x108e0, ["HATRANaALEPH;#BETH;#GIMEL;#DALETH-RESH;#HE;#WAW;#ZAYN;#HETH;#TETH;#YODH;#KAPH;",
    "#LAMEDH;#MEM;#NUN;#zu;#AYN;#PE;#SADHE;#QOPH;;#zk;#TAW"]),
  (0x108fb, ["HATRANrepk;#ph;#vo;#tb;#pkon;PHOENICIANaALF;#BET;#GAML;#DELT;#HE;#WAU;#ZAI;#HET;",
    "#TET;#YOD;#KAF;#LAMD;#MEM;#NUN;#SEMK;#AIN;#PE;#SADE;#QOF;#ROSH;#zk;#TAU;!repk;#vo;#tb;",
    "#pkon;#pj;#of;;;;!WORDtf;LYDIANaA;#B;#G;#D;#E;#V;#I;#Y;#K;#L;#M;#N;#O;#R;#SS;#T;#U;#F;#Q;",
    "#S;#TT;#AN;#EN;#LY;#NN;#C"]),
  (0x1093f, ["LYDIANsxoq"]),
  (0x10980, ["MEROITIC HIEROGLYPHICaA;$E;$I;$O;$YA;$WA;$BA;$BA-2;$PA;$MA;$NA;$NA-2;$NE;$NE-2;",
    "$RA;$RA-2;$LA;$xe;$HHA;$SA;$SA-2;$SE;$KA;$QA;$TA;$TA-2;$TE;$TE-2;$vt;$DA;#ohVIDJ;$VIDJ-2;",
    "!CURSIVEaA;$E;$I;$O;$YA;$WA;$BA;$PA;$MA;$NA;$NE;$RA;$LA;$xe;$HHA;$SA;$woSA;$SE;$KA;$QA;$TA;",
    "$TE;$vt;$DA"]),
  (0x109bc, ["MEROITIC CURSIVEvlELEVEN TWELFTHS;$pkqh;#LOGOGRAM RMT;$IMN;#repk;$pj;$of;$pd;$ph;",
    "$rt;$pi;$pa;$ql;$vo;$tb;$xc;$FORTY;$wb;$SIXTY;$sw;;;$pkon;$pjon;$ofon;$pdon;$phon;$rton;",
    "$pion;$paon;$qlon;$pkop;$pjop;$ofop;$pdop;$phop;$rtop;$piop;$paop;$qlop;$voop;$tbop;$xcop;",
    "$FORTYop;$wbop;$SIXTYop;$swop;$EIGHTYop;$tnop;$pkonop;$pjonop;$ofonop;$pdonop;$phonop;",
    "$rtonop;$pionop;$paonop;$qlonop;#vlpkTWELFTH;$pjTWELFTHS;$ofTWELFTHS;$pdTWELFTHS;",
    "$phTWELFTHS;$rtTWELFTHS;$piTWELFTHS;$paTWELFTHS;$qlTWELFTHS;$voTWELFTHS;KHAROSHTHIaA;!pvgI;",
    "$U;$qoR;;$E;$O"]),
  (0x10a0c, ["KHAROSHTHIpvLENGTHoq;!glrmm;#qn;#so;!aKA;#xe;#GA;#GHA;;#CA;#wx;#JA;;#xa;#zl;#wn;",
    "#zm;#wy;#NNA;#TA;#xr;#DA;#zr;#NA;#PA;#yp;#BA;#BHA;#MA;#YA;#RA;#LA;#VA;#wf;#SSA;#SA;#ZA;#HA;",
    "#KKA;#TTTHA;#TTTA;#VHA;;;!gryi;#CAUDA;#pnm"]),
  (0x10a3f, ["KHAROSHTHItc;!qepk;#pj;#of;#pd;!revo;#tb;#pkon;$op;!vlpkqh"]),
  (0x10a50, ["KHAROSHTHIpspn;#dpc;#pc;#CRESCENTry;#MANGALAM;#LOTUS;#wk;#lwk;#LINES"]),
  (0x10a60, ["yaukARABIANaHE;%LAMEDH;%HETH;%MEM;%QOPH;%WAW;%zk;%RESH;%BETH;%TAW;%SAT;%KAPH;%NUN;",
    "%KHETH;%SADHE;%zu;%FE;%rj;%AYN;%DHADHE;%GIMEL;%DALETH;%GHAYN;%TETH;%ZAYN;%DHALETH;%YODH;",
    "%THAW;%THETH;$repk;%wb;$NUMERIC INDICATOR;!tpARABIANaHEH;%LAM;%ut;%qa;%QAF;%WAW;%ES-2;%REH;",
    "%BEH;%TEH;%ES-1;%KAF;%xg;%uv;%SAD;%ES-3;%FEH;%rj;%AIN;%DAD;%GEEM;%DAL;%GHAIN;%TAH;%ZAIN;",
    "%THAL;%th;%THEH;%ZAH;$repk;%vo;%tb"]),
  (0x10ac0, ["MANICHAEANaALEPH;#BETH;#BHETH;#GIMEL;#GHIMEL;#DALETH;#HE;#WAW;!gUD;!aZAYIN;",
    "#ZHAYIN;#JAYIN;#JHAYIN;#HETH;#TETH;#YODH;#KAPH;#XAPH;#KHAPH;#LAMEDH;#DHAMEDH;#THAMEDH;#MEM;",
    "#NUN;#zu;#AYIN;#AAYIN;#PE;#FE;#SADHE;#QOPH;#XOPH;#QHOPH;#RESH;#zk;#SSHIN;#TAW;!suoqi;$m"]),
  (0x10aeb, ["MANICHAEANrepk;#ph;#vo;#tb;#pkon;!psul;#FLEURON;#lpnWITHINpn;#pnWITHINpn;$;#pjqy;",
    "#tqFILLER"]),
  (0x10b00, ["AVESTANaA;#AA;#AO;#AAO;#AN;#AAN;#AE;#AEE;#E;#EE;#O;#OO;#I;#II;#U;#UU;#KE;#XE;#XYE;",
    "#XVE;#GE;#GGE;#GHE;#CE;#JE;#TE;#THE;#DE;#DHE;#TTE;#PE;#FE;#BE;#BHE;#NGE;#NGYE;#NGVE;#NE;",
    "#NYE;#NNE;#ME;#HME;#YYE;#YE;#VE;#RE;#LE;#SE;#ZE;#SHE;#ZHE;#SHYE;#SSHE;#HE;;;;!suoq;",
    "TINYpjqyrfpkpnps;dpjqyrfpkpnps;rnpjqyrfpkpnps;!pkpnrfpjqyps;!pjRINGSrfpkrmps;",
    "!pkrmrfpjRINGSps;INSCRIPTIONAL PARTHIANaALEPH;$BETH;$GIMEL;$DALETH;$HE;$WAW;$ZAYIN;$HETH;",
    "$TETH;$YODH;$KAPH;$LAMEDH;$MEM;$NUN;$zu;$AYIN;$PE;$SADHE;$QOPH;$RESH;$zk;$TAW;;;#repk;$pj;",
    "$of;$pd;$vo;$tb;$pkon;%op;!PAHLAVIaALEPH;$BETH;$GIMEL;$DALETH;$HE;$WAW-AYIN-RESH;$ZAYIN;",
    "$HETH;$TETH;$YODH;$KAPH;$LAMEDH;$MEM-QOPH;$NUN;$zu;$PE;$SADHE;$zk;$TAW"]),
  (0x10b78, ["INSCRIPTIONAL PAHLAVIrepk;$pj;$of;$pd;$vo;$tb;$pkon;%op;PSALTER PAHLAVIaALEPH;",
    "$BETH;$GIMEL;$DALETH;$HE;$WAW-AYIN-RESH;$ZAYIN;$HETH;$YODH;$KAPH;$LAMEDH;$MEM-QOPH;$NUN;",
    "$zu;$PE;$SADHE;$zk;$TAW"]),
  (0x10b99, ["PSALTER PAHLAVIvboq;#pzvboq;#pdqybtt;&pn"]),
  (0x10ba9, ["PSALTER PAHLAVIrepk;$pj;$of;$pd;$vo;$tb;$pkon"]),
  (0x10c00, ["yaTURKICavdA;$uhA;%AE;$vdI;$uhI;%E;$vdO;%OE;$uhOE;$vdAB;$uhAB;$vdAEB;$uhAEB;$vdAG;",
    "$uhAG;$vdAEG;$uhAEG;$vdAD;$uhAD;$vdAED;%EZ;$uhEZ;$vdAY;$uhAY;$vdAEY;$uhAEY;$vdAEK;$uhAEK;",
    "$vdOEK;$uhOEK;$vdAL;$uhAL;$vdAEL;%ELT;%EM;%AN;%AEN;$uhAEN;$vdENT;$uhENT;$vdENC;$uhENC;",
    "$vdENY;$uhENY;%ANG;$vdENG;$uhAENG;$vdEP;%OP;%IC;%EC;$uhEC;$vdAQ;$uhAQ;$vdIQ;$uhIQ;$vdOQ;",
    "$uhOQ;$vdAR;$uhAR;$vdAER;%AS;%AES;%ASH;$uhASH;$vdESH;$uhESH;$vdAT;$uhAT;$vdAET;$uhAET;",
    "$vdOT;%BASH"]),
  (0x10c80, ["yaHUNGARIANcaA;%AA;%EB;%AMB;%EC;%ENC;%ECS;%ED;%oj;%E;%CLOSE E;%EE;%EF;%EG;%EGY;",
    "%EH;%I;%II;%EJ;%EK;%AK;%UNK;%EL;%ELY;%EM;%EN;%ENY;%O;%OO;%NIKOLSBURG OE;%RUDIMENTA OE;%OEE;",
    "%EP;%EMP;%ER;%tdER;%ES;%ESZ;%ET;%ENT;%ETY;%ECH;%U;%UU;%NIKOLSBURG UE;%RUDIMENTA UE;%EV;%EZ;",
    "%EZS;%ENT-SHAPEDg;%US"]),
  (0x10cc0, ["yaHUNGARIANdaA;%AA;%EB;%AMB;%EC;%ENC;%ECS;%ED;%oj;%E;%CLOSE E;%EE;%EF;%EG;%EGY;",
    "%EH;%I;%II;%EJ;%EK;%AK;%UNK;%EL;%ELY;%EM;%EN;%ENY;%O;%OO;%NIKOLSBURG OE;%RUDIMENTA OE;%OEE;",
    "%EP;%EMP;%ER;%tdER;%ES;%ESZ;%ET;%ENT;%ETY;%ECH;%U;%UU;%NIKOLSBURG UE;%RUDIMENTA UE;%EV;%EZ;",
    "%EZS;%ENT-SHAPEDg;%US"]),
  (0x10cfa, ["yaHUNGARIANrepk;$ph;$vo;$wb;$pkon;%op;HANIFI ROHINGYAaA;$BA;$PA;$TA;$zl;$JA;$CA;",
    "$HA;$xe;$FA;$DA;$zm;$RA;$RRA;$ZA;$SA;$wf;$KA;$GA;$LA;$MA;$NA;$WA;$KINNA WA;$YA;$KINNA YA;",
    "$wd;$xa;$VA;#pvA;$I;$U;$E;$O;#oqSAKIN;$NA KHONNA;#gHARBAHAY;$TAHALA;$TANA;$TASSI"]),
  (0x10d30, ["HANIFI ROHINGYAqerx;$pk;$pj;$of;$pd;$ph;$rt;$pi;$pa;$ql"]),
  (0x10e60, ["RUMIqepk;#pj;#of;#pd;#ph;#rt;#pi;#pa;#ql;!revo;#tb;#xc;#FORTY;#wb;#SIXTY;#sw;",
    "#EIGHTY;#tn;#pkon;#pjon;#ofon;#pdon;#phon;#rton;#pion;#paon;#qlon;!vlpkqh;$te;$THIRD;",
    "#pjTHIRDS;;YEZIDIaELIF;#BE;#PE;#PHE;#THE;#SE;#CIM;#CHIM;#CHHIM;#HHA;#XA;#DAL;#ZAL;#RA;#RHA;",
    "#ZA;#JA;#SIN;#zk;#SAD;#DAD;#TA;#ZE;#EYN;#XHEYN;#FA;#VA;$tje;#QAF;#KAF;#KHAF;#GAF;#LAM;#MIM;",
    "#NUN;#UM;#WAW;#OW;#EW;#HAY;#YOT;#ET;;!ravioq;#MADDAoq;!HYPHENATIONoq;;;!aLAMbpni;#YOTbosi"]),
  (0x10f00, ["yaSOGDIANaALEPH;$nALEPH;$BETH;$nBETH;$GIMEL;$HE;$nHE;$WAW;$ZAYIN;$HETH;$YODH;",
    "$KAPH;$LAMEDH;$MEM;$NUN;$nNUN;&bobus;$zu;$AYIN;$tjAYIN;$PE;$SADHE;$nSADHE;&bobus;",
    "$RESH-AYIN-DALETH;$zk;$TAW;$nTAW;&bobus;#repk;$pj;$of;$pd;$ph;$vo;$tb;$xc;$pkon;#vlpkqh;",
    "#rvAYIN-DALETH"]),
  (0x10f30, ["SOGDIANaALEPH;#BETH;#GIMEL;#HE;#WAW;#ZAYIN;#HETH;#YODH;#KAPH;#LAMEDH;#MEM;#NUN;",
    "#zu;#AYIN;#PE;#SADHE;#RESH-AYIN;#zk;#TAW;#FETH;#LESH;!zhzk;!rapnm;#pjqym;#pni;#pjqyi;",
    "#CURVEi;$m;#pei;$m;#sjpem;#RESHm;#ogm;!repk;#vo;#tb;#pkon;!pspjobBARS;&bqy;#pcbpn;#pjzvbqy;",
    "#qhpcbpn"]),
  (0x10f70, ["yaUYGHURaALEPH;$BETH;$GIMEL-HETH;$WAW;$ZAYIN;$nHETH;$YODH;$KAPH;$LAMEDH;$MEM;$NUN;",
    "$zu;$PE;$SADHE;$RESH;$zk;$TAW;$LESH;#rapni;%m;$pjqyi;&m;#psry;$pjBARS;%qy;$pdqy"]),
  (0x10fb0, ["CHORASMIANaALEPH;#dALEPH;#BETH;#GIMEL;#DALETH;#HE;#WAW;#CURLED WAW;#ZAYIN;#HETH;",
    "#YODH;#KAPH;#LAMEDH;#MEM;#NUN;#zu;#AYIN;#PE;#RESH;#zk;#TAW;!repk;#pj;#of;#pd;#vo;#tb;#pkon"]),
  (0x10fe0, ["ELYMAICaALEPH;#BETH;#GIMEL;#DALETH;#HE;#WAW;#ZAYIN;#HETH;#TETH;#YODH;#KAPH;",
    "#LAMEDH;#MEM;#NUN;#zu;#AYIN;#PE;#SADHE;#QOPH;#RESH;#zk;#TAW;!rvZAYIN-YODH"]),
  (0x11000, ["BRAHMIgqz;#qn;#so;#JIHVAMULIYA;#UPADHMANIYA;!aA;#AA;#I;#II;#U;#UU;#qoR;$RR;$L;$LL;",
    "#E;#AI;#O;#AU;#KA;#xe;#GA;#GHA;#wd;#CA;#wx;#JA;#JHA;#xa;#zl;#wn;#zm;#wy;#NNA;#TA;#xr;#DA;",
    "#zr;#NA;#PA;#yp;#BA;#BHA;#MA;#YA;#RA;#LA;#VA;#wf;#SSA;#SA;#HA;#LLA;#yaTAMIL LLLA;%RRA;",
    "%NNNA;!pvgAA;$BHATTIPROLU AA;$I;$II;$U;$UU;$qoR;%RR;%L;%LL;$E;$AI;$O;$AU;!tc;!wk;!lwk;",
    "!pspn;#lpn;#tq;#CRESCENTry;#LOTUS"]),
  (0x11052, ["BRAHMIrepk;#pj;#of;#pd;#ph;#rt;#pi;#pa;#ql;#vo;#tb;#xc;#FORTY;#wb;#SIXTY;#sw;",
    "#EIGHTY;#tn;#pkon;$op;!qerx;#pk;#pj;#of;#pd;#ph;#rt;#pi;#pa;#ql;!gyaTAMILtc;!ayaTAMILtdE;",
    "&O;!pvgyaTAMILtdE;(O;!ayaTAMIL LLA"]),
  (0x1107f, ["BRAHMIreJOINER;KAITHIgqz;#qn;#so;!aA;#AA;#I;#II;#U;#UU;#E;#AI;#O;#AU;#KA;#xe;#GA;",
    "#GHA;#wd;#CA;#wx;#JA;#JHA;#xa;#zl;#wn;#zm;#DDDHA;#wy;#RHA;#NNA;#TA;#xr;#DA;#zr;#NA;#PA;#yp;",
    "#BA;#BHA;#MA;#YA;#RA;#LA;#VA;#wf;#SSA;#SA;#HA;!pvgAA;$I;$II;$U;$UU;$E;$AI;$O;$AU;!gtc;#yb;",
    "!sug;!ENUMERATIONg;!reg;!vboq;!lvboq;!wk;!lwk;!pvgqoR"]),
  (0x110cd, ["KAITHIregi;;;SORA SOMPENGaSAH;$TAH;$BAH;$CAH;$DAH;$GAH;$MAH;$NGAH;$LAH;$NAH;$VAH;",
    "$PAH;$YAH;$RAH;$ut;$KAH;$JAH;$NYAH;$AH;$EEH;$IH;$UH;$OH;$EH;$MAE"]),
  (0x110f0, ["SORA SOMPENGqerx;$pk;$pj;$of;$pd;$ph;$rt;$pi;$pa;$ql"]),
  (0x11100, ["CHAKMAgqz;#qn;#so;!aAA;#I;#U;#E;#KAA;#KHAA;#GAA;#GHAA;#NGAA;#CAA;#CHAA;#JAA;#JHAA;",
    "#NYAA;#TTAA;#TTHAA;#DDAA;#DDHAA;#NNAA;#TAA;#THAA;#DAA;#DHAA;#NAA;#PAA;#PHAA;#BAA;#BHAA;",
    "#MAA;#YYAA;#YAA;#RAA;#LAA;#WAA;#SAA;#HAA;!pvgA;$I;$II;$U;$UU;$E;$AI;$O;$AU;$OI;!Ooq;!AUoq;",
    "!tc;!MAAYYAA;;!qerx;#pk;#pj;#of;#pd;#ph;#rt;#pi;#pa;#ql;!vboq;!wk;!lwk;!svoq;!aLHAA;!pvgAA;",
    "$EI;!aVAA"]),
  (0x11150, ["MAHAJANIaA;#I;#U;#E;#O;#KA;#xe;#GA;#GHA;#CA;#wx;#JA;#JHA;#xa;#zl;#wn;#zm;#wy;#NNA;",
    "#TA;#xr;#DA;#zr;#NA;#PA;#yp;#BA;#BHA;#MA;#RA;#LA;#VA;#SA;#HA;#RRA;!gyb;!sug;!vboq;!rvSHRI"]),
  (0x11180, ["SHARADAgqz;#qn;#so;!aA;#AA;#I;#II;#U;#UU;#qoR;$RR;$L;$LL;#E;#AI;#O;#AU;#KA;#xe;",
    "#GA;#GHA;#wd;#CA;#wx;#JA;#JHA;#xa;#zl;#wn;#zm;#wy;#NNA;#TA;#xr;#DA;#zr;#NA;#PA;#yp;#BA;",
    "#BHA;#MA;#YA;#RA;#LA;#LLA;#VA;#wf;#SSA;#SA;#HA;!pvgAA;$I;$II;$U;$UU;$qoR;%RR;%L;%LL;$E;$AI;",
    "$O;$AU;!gtc;#wp;#JIHVAMULIYA;#UPADHMANIYA;!OM;!wk;!lwk;!sug;!tf;!SANDHIoq;!gyb;!pvsroq;",
    "!EXTRAtdpvoq;!SUTRAoq;!pvgPRISHTHAMATRA E;!gpoqz;!qerx;#pk;#pj;#of;#pd;#ph;#rt;#pi;#pa;#ql;",
    "!EKAM;!gSIDDHAM;!HEADSTROKE;!CONTINUATIONg;!vbMARK-1;#MARK-2;;SINHALAwoqepk;$pj;$of;$pd;",
    "$ph;$rt;$pi;$pa;$ql;#revo;$tb;$xc;$FORTY;$wb;$SIXTY;$sw;$EIGHTY;$tn;$pkon;%op"]),
  (0x11200, ["KHOJKIaA;#AA;#I;#U;#E;#AI;#O;#AU;#KA;#xe;#GA;#GGA;#GHA;#wd;#CA;#wx;#JA;#JJA;;#xa;",
    "#zl;#wn;#zm;#wy;#NNA;#TA;#xr;#DA;#DDDA;#zr;#NA;#PA;#yp;#BA;#BBA;#BHA;#MA;#YA;#RA;#LA;#VA;",
    "#SA;#HA;#LLA;!pvgAA;$I;$II;$U;$E;$AI;$O;$AU;!gqn;#tc;#yb;#SHADDA;!wk;!lwk;!WORDtf;!vboq;",
    "!lvboq;!sug;!gSUKUN"]),
  (0x11280, ["MULTANIaA;#I;#U;#E;#KA;#xe;#GA;;#GHA;;#CA;#wx;#JA;#JJA;;#xa;#zl;#wn;#zm;#DDDA;#wy;",
    "#NNA;#TA;#xr;#DA;#zr;#NA;#PA;#yp;#BA;;#BHA;#MA;#YA;#RA;#LA;#VA;#SA;#HA;#RRA;#RHA;!vboq"]),
  (0x112b0, ["KHUDAWADIaA;#AA;#I;#II;#U;#UU;#E;#AI;#O;#AU;#KA;#xe;#GA;#GGA;#GHA;#wd;#CA;#wx;#JA;",
    "#JJA;#JHA;#xa;#zl;#wn;#zm;#DDDA;#RRA;#wy;#NNA;#TA;#xr;#DA;#zr;#NA;#PA;#yp;#BA;#BBA;#BHA;",
    "#MA;#YA;#RA;#LA;#VA;#wf;#SA;#HA;!gqn;!pvgAA;$I;$II;$U;$UU;$E;$AI;$O;$AU;!gyb;#tc"]),
  (0x112f0, ["KHUDAWADIqerx;#pk;#pj;#of;#pd;#ph;#rt;#pi;#pa;#ql"]),
  (0x11300, ["GRANTHAgraqni;#qz;#qn;#so;;!aA;#AA;#I;#II;#U;#UU;#qoR;$L;;;#EE;#AI;;;#OO;#AU;#KA;",
    "#xe;#GA;#GHA;#wd;#CA;#wx;#JA;#JHA;#xa;#zl;#wn;#zm;#wy;#NNA;#TA;#xr;#DA;#zr;#NA;;#PA;#yp;",
    "#BA;#BHA;#MA;#YA;#RA;;#LA;#LLA;;#VA;#wf;#SSA;#SA;#HA;;raBINDUm;GRANTHAgyb;#wp;!pvgAA;$I;",
    "$II;$U;$UU;$qoR;%RR;;;$EE;$AI;;;$OO;$AU;!gtc;;;!OM"]),
  (0x11357, ["GRANTHA AU LENGTHoq"]),
  (0x1135d, ["GRANTHAgPLUTA;!aVEDICqn;$lqn;#qoRR;$LL;!pvgqoL;%LL;;;raGRANTHAqerx;$pk;$pj;$of;",
    "$pd;$ph;$rt;;;;#aA;$KA;$NA;$VI;$PA"]),
  (0x11400, ["NEWAaA;#AA;#I;#II;#U;#UU;#qoR;$RR;$L;$LL;#E;#AI;#O;#AU;#KA;#xe;#GA;#GHA;#wd;#NGHA;",
    "#CA;#wx;#JA;#JHA;#xa;#NYHA;#zl;#wn;#zm;#wy;#NNA;#TA;#xr;#DA;#zr;#NA;#NHA;#PA;#yp;#BA;#BHA;",
    "#MA;#MHA;#YA;#RA;#RHA;#LA;#LHA;#WA;#wf;#SSA;#SA;#HA;!pvgAA;$I;$II;$U;$UU;$qoR;%RR;%L;%LL;",
    "$E;$AI;$O;$AU;!gtc;#qz;#qn;#so;#yb;#wp;#nqn;!OM;!SIDDHI;!wk;!lwk;!sb;!GAP FILLER;!sug;",
    "!qerx;#pk;#pj;#of;#pd;#ph;#rt;#pi;#pa;#ql;!lsb;!PLACEHOLDERoq;;!INSERTIONg;!SANDHIoq;",
    "!aVEDICqn;!gJIHVAMULIYA;#UPADHMANIYA"]),
  (0x11480, ["TIRHUTA ANJI;!aA;#AA;#I;#II;#U;#UU;#qoR;$RR;$L;$LL;#E;#AI;#O;#AU;#KA;#xe;#GA;#GHA;",
    "#wd;#CA;#wx;#JA;#JHA;#xa;#zl;#wn;#zm;#wy;#NNA;#TA;#xr;#DA;#zr;#NA;#PA;#yp;#BA;#BHA;#MA;#YA;",
    "#RA;#LA;#VA;#wf;#SSA;#SA;#HA;!pvgAA;$I;$II;$U;$UU;$qoR;%RR;%L;%LL;$E;$tdE;$AI;$O;$tdO;$AU;",
    "!gqz;#qn;#so;#tc;#yb;#wp;!GVANG;!sug;!OM"]),
  (0x114d0, ["TIRHUTAqerx;#pk;#pj;#of;#pd;#ph;#rt;#pi;#pa;#ql"]),
  (0x11580, ["SIDDHAMaA;#AA;#I;#II;#U;#UU;#qoR;$RR;$L;$LL;#E;#AI;#O;#AU;#KA;#xe;#GA;#GHA;#wd;",
    "#CA;#wx;#JA;#JHA;#xa;#zl;#wn;#zm;#wy;#NNA;#TA;#xr;#DA;#zr;#NA;#PA;#yp;#BA;#BHA;#MA;#YA;#RA;",
    "#LA;#VA;#wf;#SSA;#SA;#HA;!pvgAA;$I;$II;$U;$UU;$qoR;%RR;;;$E;$AI;$O;$AU;!gqz;#qn;#so;#tc;",
    "#yb;#SIDDHAM;!wk;!lwk;!tfpn;#ry;!REPETITION MARK-1;#MARK-2;#MARK-3;!ENDwhTEXToq;",
    "!vboqbTRIDENTojU-SHAPED ORNAMENTS;(tmCRESCENTS;%RAYSojtmCRESCENTS;)lCRESCENTS;)shCRESCENTS;",
    "$lrm;&bRAYS;$blCRESCENTS;%shCRESCENTS;%yqCRESCENTS;%SEPTUPLE CRESCENTS;%zvojRAYS;",
    "(pjENCLOSURES;(pdENCLOSURES;!aTHREE-CIRCLEtjI;#TWO-CIRCLEtjI;%II;#tjU;!pvgtjU;%UU"]),
  (0x11600, ["MODIaA;#AA;#I;#II;#U;#UU;#qoR;$RR;$L;$LL;#E;#AI;#O;#AU;#KA;#xe;#GA;#GHA;#wd;#CA;",
    "#wx;#JA;#JHA;#xa;#zl;#wn;#zm;#wy;#NNA;#TA;#xr;#DA;#zr;#NA;#PA;#yp;#BA;#BHA;#MA;#YA;#RA;#LA;",
    "#VA;#wf;#SSA;#SA;#HA;#LLA;!pvgAA;$I;$II;$U;$UU;$qoR;%RR;%L;%LL;$E;$AI;$O;$AU;!gqn;#so;#tc;",
    "#ARDHACANDRA;!wk;!lwk;!sug;!gHUVA"]),
  (0x11650, ["MODIqerx;#pk;#pj;#of;#pd;#ph;#rt;#pi;#pa;#ql"]),
  (0x11660, ["MONGOLIAN BIRGAbqk;!qiBIRGA;!lBIRGAbqk;!shBIRGAbqk;!BIRGAblqk;!qiBIRGAbqk;%lqk;",
    "!poBIRGA;$blqk;!SWIRL BIRGA;$bqk;%lqk;!pzSWIRL BIRGAblqk"]),
  (0x11680, ["TAKRIaA;#AA;#I;#II;#U;#UU;#E;#AI;#O;#AU;#KA;#xe;#GA;#GHA;#wd;#CA;#wx;#JA;#JHA;#xa;",
    "#zl;#wn;#zm;#wy;#NNA;#TA;#xr;#DA;#zr;#NA;#PA;#yp;#BA;#BHA;#MA;#YA;#RA;#LA;#VA;#wf;#SA;#HA;",
    "#RRA;!gqn;#so;!pvgAA;$I;$II;$U;$UU;$E;$AI;$O;$AU;!gtc;#yb;!awoxe;!sug"]),
  (0x116c0, ["TAKRIqerx;#pk;#pj;#of;#pd;#ph;#rt;#pi;#pa;#ql"]),
  (0x11700, ["AHOMaKA;#xe;#wd;#NA;#TA;#tjTA;#PA;#yp;#BA;#MA;#JA;#wx;#xr;#RA;#LA;#SA;#xa;#HA;#A;",
    "#DA;#zr;#GA;#tjGA;#GHA;#BHA;#JHA;#tjBA;;;!tkgptLA;%RA;%LIGATING RA;!pvgA;$AA;$I;$II;$U;$UU;",
    "$E;$AW;$O;$AI;$AM;!gKILLER"]),
  (0x11730, ["AHOMqerx;#pk;#pj;#of;#pd;#ph;#rt;#pi;#pa;#ql;!revo;#tb;!gdvb;#vb;#RULAI;!ohVI;",
    "!aCA;#zl;#wn;#zm;#wy;#NNA;#LLA"]),
  (0x11800, ["DOGRAaA;#AA;#I;#II;#U;#UU;#E;#AI;#O;#AU;#KA;#xe;#GA;#GHA;#wd;#CA;#wx;#JA;#JHA;#xa;",
    "#zl;#wn;#zm;#wy;#NNA;#TA;#xr;#DA;#zr;#NA;#PA;#yp;#BA;#BHA;#MA;#YA;#RA;#LA;#VA;#wf;#SSA;#SA;",
    "#HA;#RRA;!pvgAA;$I;$II;$U;$UU;$qoR;%RR;$E;$AI;$O;$AU;!gqn;#so;#tc;#yb;!sug"]),
  (0x118a0, ["WARANG CITIcaNGAA;%A;%WI;%YU;%YA;%YO;%II;%UU;%E;%O;%ANG;%GA;%KO;%ENY;%YUJ;%UC;",
    "%ENN;%ODD;%TTE;%NUNG;%DA;%AT;%AM;%BU;%PU;%HIYO;%HOLO;%HORR;%HAR;%SSUU;%SII;%VIYO;#daNGAA;",
    "%A;%WI;%YU;%YA;%YO;%II;%UU;%E;%O;%ANG;%GA;%KO;%ENY;%YUJ;%UC;%ENN;%ODD;%TTE;%NUNG;%DA;%AT;",
    "%AM;%BU;%PU;%HIYO;%HOLO;%HORR;%HAR;%SSUU;%SII;%VIYO;#qerx;$pk;$pj;$of;$pd;$ph;$rt;$pi;$pa;",
    "$ql;#revo;$tb;$xc;$FORTY;$wb;$SIXTY;$sw;$EIGHTY;$tn"]),
  (0x118ff, ["WARANG CITI OM;DIVES AKURUaA;$AA;$I;$II;$U;$UU;$E;;;$O;;;$KA;$xe;$GA;$GHA;$wd;$CA;",
    "$wx;$JA;;$xa;$zl;;$zm;$wy;$NNA;$TA;$xr;$DA;$zr;$NA;$PA;$yp;$BA;$BHA;$MA;$YA;$YYA;$RA;$LA;",
    "$VA;$wf;$SSA;$SA;$HA;$LLA;$ZA;#pvgAA;%I;%II;%U;%UU;%E;;%AI;%O;;;#gqn;$qz;$HALANTA;#tc;",
    "#PREFIXED NASALg;#ptYA;#ocRA;#ptRA;#gyb;#lwk;#GAP FILLER;#ENDwhTEXToq"]),
  (0x11950, ["DIVES AKURUqerx;$pk;$pj;$of;$pd;$ph;$rt;$pi;$pa;$ql"]),
  (0x119a0, ["NANDINAGARIaA;#AA;#I;#II;#U;#UU;#qoR;$RR;;;#E;#AI;#O;#AU;#KA;#xe;#GA;#GHA;#wd;#CA;",
    "#wx;#JA;#JHA;#xa;#zl;#wn;#zm;#wy;#NNA;#TA;#xr;#DA;#zr;#NA;#PA;#yp;#BA;#BHA;#MA;#YA;#RA;#LA;",
    "#VA;#wf;#SSA;#SA;#HA;#LLA;#RRA;!pvgAA;$I;$II;$U;$UU;$qoR;%RR;;;$E;$AI;$O;$AU;!gqn;#so;#tc;",
    "#wp;#SIDDHAM;!HEADSTROKE;!pvgPRISHTHAMATRA E"]),
  (0x11a00, ["ZANABAZARoyaA;#pvgI;%UE;%U;%E;%OE;%O;%AI;%AU;%pgI;$LENGTHoq;#aKA;$xe;$GA;$GHA;$wd;",
    "$CA;$wx;$JA;$xa;$zl;$wn;$zm;$wy;$NNA;$TA;$xr;$DA;$zr;$NA;$PA;$yp;$BA;$BHA;$MA;$TSA;$TSHA;",
    "$DZA;$DZHA;$ZHA;$ZA;$-A;$YA;$RA;$LA;$VA;$wf;$SSA;$SA;$HA;$KSSA;#ntkoq;#gtc;$qz;%bqk;",
    "$CANDRAbqk;$qn;$so;#CLUSTER-INITIALaRA;#CLUSTER-FINALaYA;%RA;%LA;%VA;#ocHEADoq;",
    "#CLOSING HEADoq;#oqTSHEG;$SHAD;$lSHAD;$sjTSHEG;#ocDOUBLE-LINED HEADoq;",
    "#CLOSING DOUBLE-LINED HEADoq;#SUBJOINER"]),
  (0x11a50, ["SOYOMBOaA;!pvgI;$UE;$U;$E;$O;$OE;$AI;$AU;$qoR;%L;#LENGTHoq;!aKA;#xe;#GA;#GHA;#wd;",
    "#CA;#wx;#JA;#JHA;#xa;#zl;#wn;#zm;#wy;#NNA;#TA;#xr;#DA;#zr;#NA;#PA;#yp;#BA;#BHA;#MA;#TSA;",
    "#TSHA;#DZA;#ZHA;#ZA;#-A;#YA;#RA;#LA;#VA;#wf;#SSA;#SA;#HA;#KSSA;!gJIHVAMULIYA;#UPADHMANIYA;",
    "!CLUSTER-INITIALaRA;$LA;$wf;$SA;!ntkgG;%K;%NG;%D;%N;%B;%M;%R;%L;%SH;%S;%-A;!gqn;#so;",
    "!GEMINATIONoq;!SUBJOINER;!oqTSHEG;#SHAD;#lSHAD;#PLUTA;!HEADoqbMOONojSUNojshFLAME;*FLAME;);",
    "!TERMINAL MARK-1;#MARK-2"]),
  (0x11ab0, ["CANADIAN SYLLABICS NATTILIK HI;$HII;$HO;$HOO;$HA;$HAA;$SHRI;$SHRII;$SHRO;$SHROO;",
    "$SHRA;$SHRAA;#SPE;#SPI;#SPO;#SPA;PAU CIN HAUaPA;%KA;%LA;%MA;%DA;%ZA;%VA;%wd;%HA;%GA;%xe;",
    "%SA;%BA;%CA;%TA;%xr;%NA;%yp;%RA;%FA;%wx;%A;%E;%I;%O;%U;%UA;%IA;%nP;&K;&T;&M;&N;&L;&W;&NG;",
    "&Y;$RISINGsksj;&;$SANDHIufta;$RISINGsksjn;&n;$SANDHIuftan;%sksj;&;&sjn;&n;$MID-LEVELsk;",
    "$uftavu;$MID-LEVELsksjn;&n;$LOW-FALLINGsksj;&;$ufta;$LOW-FALLINGsksjn;&n;$uftan"]),
  (0x11c00, ["BHAIKSUKIaA;#AA;#I;#II;#U;#UU;#qoR;$RR;$L;;#E;#AI;#O;#AU;#KA;#xe;#GA;#GHA;#wd;#CA;",
    "#wx;#JA;#JHA;#xa;#zl;#wn;#zm;#wy;#NNA;#TA;#xr;#DA;#zr;#NA;#PA;#yp;#BA;#BHA;#MA;#YA;#RA;#LA;",
    "#VA;#wf;#SSA;#SA;#HA;!pvgAA;$I;$II;$U;$UU;$qoR;%RR;%L;;$E;$AI;$O;$AU;!gqz;#qn;#so;#tc;#wp;",
    "!wk;!lwk;!WORDtf;!GAP FILLER-1;#FILLER-2"]),
  (0x11c50, ["BHAIKSUKIqerx;#pk;#pj;#of;#pd;#ph;#rt;#pi;#pa;#ql;!repk;#pj;#of;#pd;#ph;#rt;#pi;",
    "#pa;#ql;#vo;#tb;#xc;#FORTY;#wb;#SIXTY;#sw;#EIGHTY;#tn;!HUNDREDS UNIToq;;;;MARCHEN HEADoq;",
    "!oqSHAD;!aKA;#xe;#GA;#wd;#CA;#wx;#JA;#xa;#TA;#xr;#DA;#NA;#PA;#yp;#BA;#MA;#TSA;#TSHA;#DZA;",
    "#WA;#ZHA;#ZA;#-A;#YA;#RA;#LA;#wf;#SA;#HA;#A;;;!SUBJOINEDaKA;$xe;$GA;$wd;$CA;$wx;$JA;$xa;",
    "$TA;$xr;$DA;$NA;$PA;$yp;$BA;$MA;$TSA;$TSHA;$DZA;$WA;$ZHA;$ZA;;$YA;$RA;$LA;$wf;$SA;$HA;$A;",
    "!pvgAA;$I;$U;$E;$O;!gqn;#qz"]),
  (0x11d00, ["MASARAM GONDIaA;$AA;$I;$II;$U;$UU;$E;;$AI;$O;;$AU;$KA;$xe;$GA;$GHA;$wd;$CA;$wx;",
    "$JA;$JHA;$xa;$zl;$wn;$zm;$wy;$NNA;$TA;$xr;$DA;$zr;$NA;$PA;$yp;$BA;$BHA;$MA;$YA;$RA;$LA;$VA;",
    "$wf;$SSA;$SA;$HA;$LLA;$KSSA;$JNYA;$TRA;#pvgAA;%I;%II;%U;%UU;%qoR;;;;%E;;%AI;%O;;%AU;#gqn;",
    "$so;$yb;$CANDRA;$HALANTA;#tc;#REPHA;#RA-KARA"]),
  (0x11d50, ["MASARAM GONDIqerx;$pk;$pj;$of;$pd;$ph;$rt;$pi;$pa;$ql"]),
  (0x11d60, ["GUNJALA GONDIaA;$AA;$I;$II;$U;$UU;;$EE;$AI;;$OO;$AU;$YA;$VA;$BA;$BHA;$MA;$KA;$xe;",
    "$TA;$xr;$LA;$GA;$GHA;$DA;$zr;$NA;$CA;$wx;$zl;$wn;$LLA;$JA;$JHA;$zm;$wy;$wd;$PA;$yp;$HA;$RA;",
    "$SA;#pvgAA;%I;%II;%U;%UU;;%EE;%AI;;%OO;%AU;#gqn;$so;#tc;#OM"]),
  (0x11da0, ["GUNJALA GONDIqerx;$pk;$pj;$of;$pd;$ph;$rt;$pi;$pa;$ql"]),
  (0x11ee0, ["MAKASARaKA;#GA;#wd;#PA;#BA;#MA;#TA;#DA;#NA;#CA;#JA;#xa;#YA;#RA;#LA;#VA;#SA;#A;",
    "!ANGKA;!pvgI;$U;$E;$O;!PASSIMBANG;!ENDwhvb"]),
  (0x11fb0, ["LISUaYHA"]),
  (0x11fc0, ["TAMILvlpkTHREE-HUNDRED-AND-TWENTIETH;$ONE-HUNDRED-AND-SIXTIETH;$EIGHTIETH;",
    "$SIXTY-FOURTH;$FORTIETH;$THIRTY-SECOND;#ofEIGHTIETHS;$SIXTY-FOURTHS;#pkTWENTIETH;",
    "$SIXTEENTH-1;$SIXTEENTH-2;$TENTH;$vq;#ofTWENTIETHS;$SIXTEENTHS;#pkFIFTH;$te;$HALF-1;",
    "$HALF-2;#ofxi;#DOWNSCALING FACTOR KIIZH;!gNEL;#CEVITU;#AAZHAAKKU;#UZHAKKU;#MUUVUZHAKKU;",
    "#KURUNI;#PATHAKKU;#MUKKURUNI;#KAACU;#PANAM;#PON;#VARAAKAN;#PAARAM;#KUZHI;#VELI;",
    "!WET CULTIVATIONg;!DRY CULTIVATIONg;!LANDg;!SALT PANg;!TRADITIONAL CREDITg;#reg;!CURRENTg;",
    "!ojODDg;!SPENTg;!TOTALg;!IN POSSESSIONg;!STARTINGyvg;!gMUTHALIYA;#VAKAIYARAA"]),
  (0x11fff, ["TAMILpsENDwhTEXT;CUNEIFORMgA;$pbA;%BAD;%GAN2wu;%HA;%IGI;%LAGARuz;%MUSH;%SAG;#A2;",
    "#AB;$pbASH2;%DUN3uz;%GAL;%GAN2wu;%HA;%IGIuz;%IMIN;%LAGAB;%SHESH;%UqbUqbU;$uz;#AB2;$pbBALAG;",
    "%GAN2wu;%MEqbEN;%SHA3;%TAK4;#AD;#AK;$pbERIN2;%SHITAqbGISH;#AL;$pbAL;%DIM2;%GISH;%HA;%KAD3;",
    "%KI;%SHE;%USH;#ALAN;#ALEPH;#AMAR;$pbSHE;#AN;$rfAN;$ofpb;$qbNAGA OPPOSING ANqbNAGA;&sn;",
    "#ANSHE;#APIN;#ARAD;$pbKUR;#ARKAB;#ASAL2;#ASH;$ZIDAwu;$KABAwu;",
    "$rfASH TUG2rfTUG2 TUG2rfTUG2 PAP;&rfASH;)slASHrfASHrfASH;#ASH2;#ASHGAB;#BA;#BAD;#BAG3;",
    "#BAHAR2;#BAL;$rfBAL;#BALAG;#ry;#BARA2;#BI;$pbA;%GAR;%IGIuz;#BU;$rfBU AB;&UN;$slBU;#BULUG;",
    "$rfBULUG;#BUR;#BUR2;#DA;#DAG;$KISIM5pbAqbMASH;&AMAR;&BALAG;&BI;&GA;(qbMASH;&GI;&GIR2;&GUD;",
    "&HA;&IR;(qbLU;&KAK;&LA;&LU;(qbMASH2;&LUM;&NE;&PAPqbPAP;&SI;&TAK4;&U2qbGIR2;&USH;#DAM;#DAR;",
    "#DARA3;#DARA4;#DI;#DIB;#DIM;$pbSHE;#DIM2;#DIN;$KASKAL UuzDISH;#DISH;#DU;$rfDU;$uz;$SHESHIG;",
    "#DUB;$pbESH2;#DUB2;#DUG;#DUGUD;#DUH;#DUN;#DUN3;$uz;%uz;#DUN4;#DUR2;#E;$pbPAP;$rfE NUNrfNUN;",
    "#E2;$pbAqbHAqbDA;%GAR;%MI;%SAL;%SHE;%U;#EDIN;#EGIR;#EL;#EN;$pbGAN2;&wu;%ME;$slEN;",
    "$OPPOSING EN;$sn;#EREN;#ERIN2;#ESH2;#EZEN;$pbA;&qbLAL;)pbLAL;%AN;%BAD;%DUN3uz;(uz;%HA;&uz;",
    "%IGIuz;%KASKAL;&sn;%KU3;%LA;%LALpbLAL;%LI;%LU;%U2;%UD;#GA;$uz;#GA2;$pbAqbDAqbHA;(HA;(IGI;",
    "%AB2wuqbTAB;%AN;%ASH;%ASH2qbGAL;%BAD;%ryqbRA;%BUR;&qbRA;%DA;%DI;%DIMpbSHE;%DUB;%EL;&qbLA;",
    "%EN;&pbGAN2wu;%GAN2wu;%GAR;%GI;%GI4;&qbA;%GIR2qbSU;%HAqbLUqbESH2;%HAL;&qbLA;%HIqbLI;%HUB2;",
    "%IGIuz;%ISHqbHUqbASH;%KAK;%KASKAL;%KID;&qbLAL;%KU3qbAN;%LA;%MEqbEN;%MI;%NUN;&rfNUN;%PA;",
    "%SAL;%SAR;%SHE;&qbTUR;%SHID;%SUM;%TAK4;%U;%UD;&qbDU;$rfGA2;#GABA;$slGABA;#GAD;",
    "$rfGAD GARrfGAR;#GAL;$GADrfGAD GARrfGAR;#GALAM;#GAM;#GAN;#GAN2;$wu;$rfGAN2;$slGAN2;#GAR;",
    "#GAR3;#GASHAN;#GESHTIN;$pbKUR;#GI;$pbE;%U;$slGI;#GI4;$rfGI4;$slGI4;#GIDIM;#GIR2;$uz;#GIR3;",
    "$pbAqbIGI;%GAN2wu;%IGI;%LUqbIGI;%PA;#GISAL;#GISH;$slGISH;$pbBAD;%TAK4;$wu;#GU;$slGU;#GU2;",
    "$pbKAK;&pbIGIuz;%NUN;%SALqbTUG2;$uz;#GUD;$pbAqbKUR;%KUR;$rfGUD LUGAL;#GUL;#GUM;$pbSHE;#GUR;",
    "#GUR7;#GURUN;#GURUSH;#HA;$wu;$uz;#HAL;#HI;$pbASH;%ASH2;%BAD;%DISH;%GAD;%KIN;%NUN;%SHE;%U;",
    "#HU;#HUB2;$pbAN;%HAL;%KASKAL;%LISH;%UD;#HUL2;#I;$A;#IB;#IDIM;$rfIDIM BUR;&sn;#IG;#IGI;$DIB;",
    "$RI;$rfIGI SHIRrfSHIR UDrfUD;$uz;#IL;$pbGAN2wu;#IL2;#IM;$pbTAK4;$slIM;$OPPOSING IM;$sn;",
    "#IMIN;#IN;#IR;#ISH;#KA;$pbA;%AD;&qbKU3;%ASH2;%BAD;%BALAG;%ry;%BI;%ERIN2;%ESH2;%GA;%GAL;",
    "%GAN2wu;%GAR;&qbSHA3qbA;%GI;%GIR2;%GISHqbSAR;&slGISH;%GU;%GUR7;%IGI;%IM;%KAK;%KI;%KID;%LI;",
    "%LU;%ME;&qbDU;(GI;(TE;%MI;&qbNUNUZ;%NE;%NUN;%PI;%RU;%SA;%SAR;%wf;%SHE;%SHID;%SHU;%SIG;",
    "%SUHUR;%TAR;%U;%U2;%UD;%UMUMpbPA;%USH;%ZI;#KA2;$slKA2;#KAB;#KAD2;#KAD3;#KAD4;#KAD5;$rfKAD5;",
    "#KAK;$pbIGIuz;#KAL;$pbBAD;$slKAL;#KAM2;#KAM4;#KASKAL;$LAGABpbUrfLAGABpbU;",
    "$rfKASKAL LAGABpbUrfLAGABpbU;#KESH2;#KI;$pbBAD;%U;%UD;#KID;#KIN;#KISAL;#KISH;#KISIM5;",
    "$rfKISIM5;#KU;$rfHIpbASH2 KUrfHIpbASH2;#KU3;#KU4;$vue;#KU7;#KUL;$uz;#KUN;#KUR;",
    "$OPPOSING KUR;#KUSHU2;#KWU318;#LA;#LAGAB;$pbA;&qbDAqbHA;(GAR;(LAL;%AL;%AN;%ASH ZIDAwu;%BAD;",
    "%BI;%DAR;%EN;%GA;%GAR;%GUD;&qbGUD;%HA;%HAL;%HIpbNUN;%IGIuz;%IM;&qbHA;(LU;%KI;%KIN;%KU3;",
    "%KUL;&qbHIqbA;%LAGAB;%LISH;%LU;%LUL;%ME;&qbEN;%MUSH;%NE;%SHEqbSUM;%SHITAqbGISHqbERIN2;)wu;",
    "%SHU2;&qbSHU2;%SUM;%TAG;%TAK4;%TEqbAqbSUqbNA;%U;&qbA;(UqbU;%U2qbASH;%UD;%USH;$sn;#LAGAR;",
    "$pbSHE;&qbSUM;$uz;%rfLAGARuzSHE;#LAHSHU;#LAL;$pbLAL;#LAM;$pbKUR;&qbRU;#LI;#LIL;#LIMMU2;",
    "#LISH;#LU;$pbBAD;#LU2;$pbAL;%BAD;%ESH2;&wu;%GAN2wu;%HIpbBAD;%IM;%KAD2;%KAD3;&qbASH;%KI;",
    "%LAqbASH;%LAGAB;%MEqbEN;%NE;%NU;%SIqbASH;%SIK2qbBU;%TUG2;$wu;$slLU2;$OPPOSING LU2;$sn;",
    "$SHESHIG;#LU3;#LUGAL;$rfLUGAL;$OPPOSING LUGAL;$SHESHIG;#LUH;#LUL;#LUM;$rfLUM;&GARrfGAR;#MA;",
    "$pbTAK4;$uz;#MA2;#MAH;#MAR;#MASH;#MASH2;#ME;#MES;#MI;#MIN;#MU;$rfMU;#MUG;$uz;#MUNSUB;",
    "#MURGU2;#MUSH;$pbA;%KUR;%ZA;$rfMUSH;&pbAqbNA;$slMUSH;#MUSH3;$pbA;&qbDI;%DI;$uz;#NA;#NA2;",
    "#NAGA;$po;$pbSHUwu;$OPPOSING NAGA;#NAGAR;#NAM NUTILLU;$;#NAM2;#NE;$pbA;%UD;$SHESHIG;#NI;",
    "$pbE;#NI2;#NIM;$pbGAN2wu;%GARqbGAN2wu;#NINDA2;$pbAN;%ASH;&qbASH;%GUD;%MEqbGAN2wu;%NE;%NUN;",
    "%SHE;&qbA AN;(ASH;)qbASH;%U2qbASH;%USH;#NISAG;#NU;#NU11;#NUN;$LAGARpbGAR;&MASH;&SAL;",
    "(rfNUN LAGARpbSAL;&USH;$wu;$rfNUN;$slNUN;&LAGARrfLAGAR;#NUNUZ;$AB2pbASHGAB;&BI;&DUG;&GUD;",
    "&IGIuz;&KAD3;&LA;&NE;&SILA3;&U2;$KISIM5pbBI;(U;#PA;#PAD;#PAN;#PAP;#PESH2;#PI;$pbA;%AB;%BI;",
    "%BU;%E;%I;%IB;%U;%U2;$slPI;#PIRIG;$pbKAL;%UD;%ZA;$OPPOSING PIRIG;#RA;#RAB;#RI;#RU;#SA;",
    "#SAG NUTILLU;$;$pbA;%DU;%DUB;%HA;%KAK;%KUR;%LUM;%MI;%NUN;%SAL;%SHID;%TAB;%U2;%UB;%UM;%UR;",
    "%USH;$rfSAG;$uz;#SAL;$LAGABpbASH2;#SANGA2;#SAR;#wf;#SHA3;$pbA;%BAD;%GISH;%NE;%SHU2;%TUR;%U;",
    "&qbA;#SHA6;#SHAB6;#SHAR2;#SHE;$HU;$rfSHE GADrfGAD GARrfGAR;&TABrfTAB GARrfGAR;#SHEG9;#SHEN;",
    "#SHESH;#SHESH2;#SHESHLAM;#SHID;$pbA;%IM;#SHIM;$pbA;%BAL;%BULUG;%DIN;%GAR;%IGI;&uz;%KUSHU2;",
    "%LUL;%MUG;%SAL;#SHINIG;#SHIR;$wu;$rfSHIR BURrfBUR;#SHITA;#SHU;$rfpoSHU;#SHU2;#SHUBUR;#SI;",
    "$uz;#SIG;#SIG4;$rfSIG4 SHU2;#SIK2;#SILA3;#SU;$rfSU;#SUD;#SUD2;#SUHUR;#SUM;#SUMASH;#SUR;",
    "#SUR9;#TA;$qv;$pbHI;%MI;$uz;#TAB;$rfTAB NIrfNI DISHrfDISH;$sn;#TAG;$pbBI;%GUD;%SHE;%SHU;",
    "%TUG2;%UD;#TAK4;#TAR;#TE;$uz;#TI;$wu;#TIL;#TIR;$pbTAK4;$rfTIR;&GADrfGAD GARrfGAR;#TU;#TUG2;",
    "#TUK;#TUM;#TUR;$rfTUR ZArfZA;#U;$GUD;$U U;$rfU PArfPA GARrfGAR;&SURrfSUR;&UpgrfUpg;#U2;#UB;",
    "#UD;$KUSHU2;$pbBAD;%MI;%UqbUqbU;+uz;$uz;$SHESHIG;%pbBAD;#UDUG;#UM;$pbLAGAB;%MEqbDA;%SHA3;",
    "%U;#UMBIN;#UMUM;$pbKASKAL;%PA;#UN;$uz;#UR;$slUR;$SHESHIG;#UR2;$pbAqbHA;(NA;%AL;%HA;%NUN;",
    "%U2;&qbASH;(BI;#UR4;#URI;#URI3;#URU;$pbA;%ASHGAB;%ry;%DUN;%GA;%GAL;%GAN2wu;%GAR;%GU;%HA;",
    "%IGI;%IM;%ISH;%KI;%LUM;%MIN;%PA;%SHE;%SIG4;%TU;%UqbGUD;%UD;%URUDA;#URUDA;$pbU;#USH;$pbA;",
    "%KU;%KUR;%TAK4;#USHX;#USH2;#USHUMX;#UTUKI;#UZ3;$pbKASKAL;#UZU;#ZA;$wu;$snpbKUR;#ZAG;#ZAMX;",
    "#ZE2;#ZI;$rfZI;#ZI3;#ZIB;$KABAwu;#ZIG;#ZIZ2;#ZU;#ZU5;$pbA;#ZUBUR;#ZUM;#KAP ELAMITE;",
    "#ABpbNUN;#AB2pbA;#AMARpbKUG;#DAG KISIM5pbU2qbMASH;#DAG3;#DISHqbSHU;#DUBpbSHE;#EZENpbGUD;",
    "%SHE;#GA2pbANqbKAKqbA;%ASH2;#GE22;#GIG;#HUSH;#KApbANSHE;%ASH3;%GISH;%GUD;%HIpbASH2;%LUM;",
    "%PA;%SHUL;%TU;%UR2;#LAGABpbGI;#LU2 SHESHIGpbBAD;$pbESH2qbLAL;%SHU;#MESH;#MUSH3pbZA;#NA4;",
    "#NIN;#NIN9;#NINDA2pbBAL;%GI;#NU11qitnrd;#PESH2qv;#PIR2;#SAGpbIGIuz;#TI2;#UMpbME;#U U"]),
  (0x12400, ["CUNEIFORM NUMERICgpjASH;$ofASH;$pdASH;$phASH;$rtASH;$piASH;$paASH;$qlASH;$ofDISH;",
    "$pdDISH;$phDISH;$rtDISH;$piDISH;$paDISH;$qlDISH;$pdU;$phU;$rtU;$piU;$paU;$qlU;$pkGESH2;",
    "$pjGESH2;$ofGESH2;$pdGESH2;$phGESH2;$rtGESH2;$piGESH2;$paGESH2;$qlGESH2;$pkGESHU;$pjGESHU;",
    "$ofGESHU;$pdGESHU;$phGESHU;$pjSHAR2;$ofSHAR2;&vue;$pdSHAR2;$phSHAR2;$rtSHAR2;$piSHAR2;",
    "$paSHAR2;$qlSHAR2;$pkSHARU;$pjSHARU;$ofSHARU;&vue;$pdSHARU;$phSHARU;$SHAR2pbGALqbDISH;)MIN;",
    "$pkBURU;$pjBURU;$ofBURU;&vue;$pdBURU;$phBURU;$ofvueESH16;(ESH21;$pdvueLIMMU;(LIMMU4;",
    "(LIMMU A;)B;$rtvueASH9;$pivueIMIN3;(IMIN A;)B;$pavueUSSU;(USSU3;$qlvueILIMMU;(ILIMMU3;",
    "(ILIMMU4;(ILIMMU A;$pjASHwu;$ofASHwu;$pdASHwu;$phASHwu;$rtASHwu;$pkBAN2;$pjBAN2;$ofBAN2;",
    "$pdBAN2;&vue;$phBAN2;&vue;$NIGIDAMIN;$NIGIDAESH;$pkESHE3;$pjESHE3;$pkTHIRD DISH;",
    "$pjTHIRDS DISH;$phSIXTHS DISH;$pkTHIRDvueA;$pjTHIRDSvueA;$pkvqASH;%teASH;",
    "$yaASSYRIANpkSIXTH;(te;$pkteGUR;%qhGUR;$ELAMITEpkTHIRD;%pjTHIRDS;%FORTY;%wb;$pdUvue;",
    "$phUvue;$rtUvue;$piUvue;$paUvue;$qlUvue;;!psgyaASSYRIAN WORD DIVIDER;$obwg;$rbwg;%TRICOLON;",
    "%QUADCOLON"]),
  (0x12480, ["CUNEIFORMgABpbNUNwu;%SHU2;#ADpbESH2;#BADpbDISHwu;#BAHAR2pbAB2;%NI;%ZA;",
    "#BUrfBUpbNA2;#DApbTAK4;#DAGpbKUR;#DIMpbIGI;%U U U;#DIM2pbUD;#DUGpbANSHE;%ASH;&ATod;%DIN;",
    "%DUN;%ERIN2;%GA;%GI;%GIR2uz;%GISH;%HA;%HI;%IGIuz;%KASKAL;%KUR;%KUSHU2;&qbKASKAL;%LAK-020;",
    "%LAM;&pbKUR;%LUHqbGISH;%MASH;%MES;%MI;%NI;%PI;%SHE;%SIuz;#E2pbKUR;%PAP;#ERIN2 X;",
    "#ESH2slESH2;#EZEN SHESHIGpbASH;&HI;&IGIuz;&LA;&LAL;&ME;&MES;&SU;$pbSU;#GA2pbBAHAR2;%DIMuz;",
    "%DUGpbIGIuz;(KASKAL;%EREN;%GA;%GARqbDI;(NE;%HAqbA;%KUSHU2qbKASKAL;%LAM;&pbKUR;%LUH;%MUSH;",
    "%NE;&qbE2;(GI;%SHIM;%ZIZ2;#GABAqitnrd;#GESHTINpbU;#GISHpbGISHslGISH;#GU2pbIGIuz;",
    "#GUDqbGISHpbTAK4;#HAwuuz;#HIpbASHrfHIpbASH;#KApbBU;%KA;%U U U;%UR;#LAGABpbZUrfZU;#LAK-003;",
    "#LAK-021;#LAK-025;#LAK-030;#LAK-050;#LAK-051;#LAK-062;#LAK-079rfLAK-079uz;#LAK-080;",
    "#LAK-081rfLAK-081;#LAK-092;#LAK-130;#LAK-142;#LAK-210;#LAK-219;#LAK-220;#LAK-225;#LAK-228;",
    "#LAK-238;#LAK-265;#LAK-266;#LAK-343;#LAK-347;#LAK-348;#LAK-383;#LAK-384;#LAK-390;#LAK-441;",
    "#LAK-449;$pbGU;%IGI;%PAPqbLU3;(PAPqbLU3;%U2qbBA;#LAK-450;#LAK-457;#LAK-470;#LAK-483;",
    "#LAK-490;#LAK-492;#LAK-493;#LAK-495;#LAK-550;#LAK-608;#LAK-617;$pbASH;%BAD;%DUN3uzuz;%KU3;",
    "%LA;%TAR;%TE;%U2;%UD;%URUDA;#LAK-636;#LAK-648;$pbDUB;%GA;%IGI;&uz;%NI;%PAPqbPAPqbLU3;",
    "%SHESHqbKI;%UD;%URUDA;#LAK-724;#LAK-749;#LU2uzpbASH;$pbDISH;%HAL;%PAP;&qbPAPqbLU3;%TAK4;",
    "#MIqbZA7;#MUSHrfMUSHpbGA;(KAK;#NINDA2pbDIMuz;%GISH;%GUL;%HI;%KESH2;%LAK-050;%MASH;",
    "%PAPqbPAP;%U;&qbU;%URUDA;#SAGuzpbHA;$pbEN;%SHE ATod;%TAK4;#SHA6wu;#SHErfSHE;$qbHUB2;%NAM2;",
    "%SAR;#SHU2qbDUGpbNI;%E2pbAN;#SIpbTAK4;#TAK4qbSAG;#TUMpbGAN2wu;%ofDISH;#UR2po;$pbUD;",
    "#URUpbDARA3;%LAK-668;%LU3;#ZA7;#ZUrfZUqbSAR;#ZU5pbofDISHwu"]),
  (0x12f90, ["CYPRO-MINOANgCM001;#CM002;#CM004;#CM005;#CM006;#CM007;#CM008;#CM009;#CM010;#CM011;",
    "#CM012;#CM012B;#CM013;#CM015;#CM017;#CM019;#CM021;#CM023;#CM024;#CM025;#CM026;#CM027;",
    "#CM028;#CM029;#CM030;#CM033;#CM034;#CM035;#CM036;#CM037;#CM038;#CM039;#CM040;#CM041;#CM044;",
    "#CM046;#CM047;#CM049;#CM050;#CM051;#CM052;#CM053;#CM054;#CM055;#CM056;#CM058;#CM059;#CM060;",
    "#CM061;#CM062;#CM063;#CM064;#CM066;#CM067;#CM068;#CM069;#CM070;#CM071;#CM072;#CM073;#CM074;",
    "#CM075;#CM075B;#CM076;#CM078;#CM079;#CM080;#CM081;#CM082;#CM083;#CM084;#CM085;#CM086;",
    "#CM087;#CM088;#CM089;#CM090;#CM091;#CM092;#CM094;#CM095;#CM096;#CM097;#CM098;#CM099;#CM100;",
    "#CM101;#CM102;#CM103;#CM104;#CM105;#CM107;#CM108;#CM109;#CM110;#CM112;#CM114;#CM301;#CM302"]),
  (0x13000, ["EGYPTIAN HIEROGLYPH A001;#A002;#A003;#A004;#A005;#A005A;#A006;#A006A;#A006B;#A007;",
    "#A008;#A009;#A010;#A011;#A012;#A013;#A014;#A014A;#A015;#A016;#A017;#A017A;#A018;#A019;",
    "#A020;#A021;#A022;#A023;#A024;#A025;#A026;#A027;#A028;#A029;#A030;#A031;#A032;#A032A;#A033;",
    "#A034;#A035;#A036;#A037;#A038;#A039;#A040;#A040A;#A041;#A042;#A042A;#A043;#A043A;#A044;",
    "#A045;#A045A;#A046;#A047;#A048;#A049;#A050;#A051;#A052;#A053;#A054;#A055;#A056;#A057;#A058;",
    "#A059;#A060;#A061;#A062;#A063;#A064;#A065;#A066;#A067;#A068;#A069;#A070;#B001;#B002;#B003;",
    "#B004;#B005;#B005A;#B006;#B007;#B008;#B009;#C001;#C002;#C002A;#C002B;#C002C;#C003;#C004;",
    "#C005;#C006;#C007;#C008;#C009;#C010;#C010A;#C011;#C012;#C013;#C014;#C015;#C016;#C017;#C018;",
    "#C019;#C020;#C021;#C022;#C023;#C024;#D001;#D002;#D003;#D004;#D005;#D006;#D007;#D008;#D008A;",
    "#D009;#D010;#D011;#D012;#D013;#D014;#D015;#D016;#D017;#D018;#D019;#D020;#D021;#D022;#D023;",
    "#D024;#D025;#D026;#D027;#D027A;#D028;#D029;#D030;#D031;#D031A;#D032;#D033;#D034;#D034A;",
    "#D035;#D036;#D037;#D038;#D039;#D040;#D041;#D042;#D043;#D044;#D045;#D046;#D046A;#D047;#D048;",
    "#D048A;#D049;#D050;#D050A;#D050B;#D050C;#D050D;#D050E;#D050F;#D050G;#D050H;#D050I;#D051;",
    "#D052;#D052A;#D053;#D054;#D054A;#D055;#D056;#D057;#D058;#D059;#D060;#D061;#D062;#D063;",
    "#D064;#D065;#D066;#D067;#D067A;#D067B;#D067C;#D067D;#D067E;#D067F;#D067G;#D067H;#E001;",
    "#E002;#E003;#E004;#E005;#E006;#E007;#E008;#E008A;#E009;#E009A;#E010;#E011;#E012;#E013;",
    "#E014;#E015;#E016;#E016A;#E017;#E017A;#E018;#E019;#E020;#E020A;#E021;#E022;#E023;#E024;",
    "#E025;#E026;#E027;#E028;#E028A;#E029;#E030;#E031;#E032;#E033;#E034;#E034A;#E036;#E037;",
    "#E038;#F001;#F001A;#F002;#F003;#F004;#F005;#F006;#F007;#F008;#F009;#F010;#F011;#F012;#F013;",
    "#F013A;#F014;#F015;#F016;#F017;#F018;#F019;#F020;#F021;#F021A;#F022;#F023;#F024;#F025;",
    "#F026;#F027;#F028;#F029;#F030;#F031;#F031A;#F032;#F033;#F034;#F035;#F036;#F037;#F037A;",
    "#F038;#F038A;#F039;#F040;#F041;#F042;#F043;#F044;#F045;#F045A;#F046;#F046A;#F047;#F047A;",
    "#F048;#F049;#F050;#F051;#F051A;#F051B;#F051C;#F052;#F053;#G001;#G002;#G003;#G004;#G005;",
    "#G006;#G006A;#G007;#G007A;#G007B;#G008;#G009;#G010;#G011;#G011A;#G012;#G013;#G014;#G015;",
    "#G016;#G017;#G018;#G019;#G020;#G020A;#G021;#G022;#G023;#G024;#G025;#G026;#G026A;#G027;",
    "#G028;#G029;#G030;#G031;#G032;#G033;#G034;#G035;#G036;#G036A;#G037;#G037A;#G038;#G039;",
    "#G040;#G041;#G042;#G043;#G043A;#G044;#G045;#G045A;#G046;#G047;#G048;#G049;#G050;#G051;",
    "#G052;#G053;#G054;#H001;#H002;#H003;#H004;#H005;#H006;#H006A;#H007;#H008;#I001;#I002;#I003;",
    "#I004;#I005;#I005A;#I006;#I007;#I008;#I009;#I009A;#I010;#I010A;#I011;#I011A;#I012;#I013;",
    "#I014;#I015;#K001;#K002;#K003;#K004;#K005;#K006;#K007;#K008;#L001;#L002;#L002A;#L003;#L004;",
    "#L005;#L006;#L006A;#L007;#L008;#M001;#M001A;#M001B;#M002;#M003;#M003A;#M004;#M005;#M006;",
    "#M007;#M008;#M009;#M010;#M010A;#M011;#M012;#M012A;#M012B;#M012C;#M012D;#M012E;#M012F;",
    "#M012G;#M012H;#M013;#M014;#M015;#M015A;#M016;#M016A;#M017;#M017A;#M018;#M019;#M020;#M021;",
    "#M022;#M022A;#M023;#M024;#M024A;#M025;#M026;#M027;#M028;#M028A;#M029;#M030;#M031;#M031A;",
    "#M032;#M033;#M033A;#M033B;#M034;#M035;#M036;#M037;#M038;#M039;#M040;#M040A;#M041;#M042;",
    "#M043;#M044;#N001;#N002;#N003;#N004;#N005;#N006;#N007;#N008;#N009;#N010;#N011;#N012;#N013;",
    "#N014;#N015;#N016;#N017;#N018;#N018A;#N018B;#N019;#N020;#N021;#N022;#N023;#N024;#N025;",
    "#N025A;#N026;#N027;#N028;#N029;#N030;#N031;#N032;#N033;#N033A;#N034;#N034A;#N035;#N035A;",
    "#N036;#N037;#N037A;#N038;#N039;#N040;#N041;#N042;#NL001;#NL002;#NL003;#NL004;#NL005;",
    "#NL005A;#NL006;#NL007;#NL008;#NL009;#NL010;#NL011;#NL012;#NL013;#NL014;#NL015;#NL016;",
    "#NL017;#NL017A;#NL018;#NL019;#NL020;#NU001;#NU002;#NU003;#NU004;#NU005;#NU006;#NU007;",
    "#NU008;#NU009;#NU010;#NU010A;#NU011;#NU011A;#NU012;#NU013;#NU014;#NU015;#NU016;#NU017;",
    "#NU018;#NU018A;#NU019;#NU020;#NU021;#NU022;#NU022A;#O001;#O001A;#O002;#O003;#O004;#O005;",
    "#O005A;#O006;#O006A;#O006B;#O006C;#O006D;#O006E;#O006F;#O007;#O008;#O009;#O010;#O010A;",
    "#O010B;#O010C;#O011;#O012;#O013;#O014;#O015;#O016;#O017;#O018;#O019;#O019A;#O020;#O020A;",
    "#O021;#O022;#O023;#O024;#O024A;#O025;#O025A;#O026;#O027;#O028;#O029;#O029A;#O030;#O030A;",
    "#O031;#O032;#O033;#O033A;#O034;#O035;#O036;#O036A;#O036B;#O036C;#O036D;#O037;#O038;#O039;",
    "#O040;#O041;#O042;#O043;#O044;#O045;#O046;#O047;#O048;#O049;#O050;#O050A;#O050B;#O051;",
    "#P001;#P001A;#P002;#P003;#P003A;#P004;#P005;#P006;#P007;#P008;#P009;#P010;#P011;#Q001;",
    "#Q002;#Q003;#Q004;#Q005;#Q006;#Q007;#R001;#R002;#R002A;#R003;#R003A;#R003B;#R004;#R005;",
    "#R006;#R007;#R008;#R009;#R010;#R010A;#R011;#R012;#R013;#R014;#R015;#R016;#R016A;#R017;",
    "#R018;#R019;#R020;#R021;#R022;#R023;#R024;#R025;#R026;#R027;#R028;#R029;#S001;#S002;#S002A;",
    "#S003;#S004;#S005;#S006;#S006A;#S007;#S008;#S009;#S010;#S011;#S012;#S013;#S014;#S014A;",
    "#S014B;#S015;#S016;#S017;#S017A;#S018;#S019;#S020;#S021;#S022;#S023;#S024;#S025;#S026;",
    "#S026A;#S026B;#S027;#S028;#S029;#S030;#S031;#S032;#S033;#S034;#S035;#S035A;#S036;#S037;",
    "#S038;#S039;#S040;#S041;#S042;#S043;#S044;#S045;#S046;#T001;#T002;#T003;#T003A;#T004;#T005;",
    "#T006;#T007;#T007A;#T008;#T008A;#T009;#T009A;#T010;#T011;#T011A;#T012;#T013;#T014;#T015;",
    "#T016;#T016A;#T017;#T018;#T019;#T020;#T021;#T022;#T023;#T024;#T025;#T026;#T027;#T028;#T029;",
    "#T030;#T031;#T032;#T032A;#T033;#T033A;#T034;#T035;#T036;#U001;#U002;#U003;#U004;#U005;",
    "#U006;#U006A;#U006B;#U007;#U008;#U009;#U010;#U011;#U012;#U013;#U014;#U015;#U016;#U017;",
    "#U018;#U019;#U020;#U021;#U022;#U023;#U023A;#U024;#U025;#U026;#U027;#U028;#U029;#U029A;",
    "#U030;#U031;#U032;#U032A;#U033;#U034;#U035;#U036;#U037;#U038;#U039;#U040;#U041;#U042;#V001;",
    "#V001A;#V001B;#V001C;#V001D;#V001E;#V001F;#V001G;#V001H;#V001I;#V002;#V002A;#V003;#V004;",
    "#V005;#V006;#V007;#V007A;#V007B;#V008;#V009;#V010;#V011;#V011A;#V011B;#V011C;#V012;#V012A;",
    "#V012B;#V013;#V014;#V015;#V016;#V017;#V018;#V019;#V020;#V020A;#V020B;#V020C;#V020D;#V020E;",
    "#V020F;#V020G;#V020H;#V020I;#V020J;#V020K;#V020L;#V021;#V022;#V023;#V023A;#V024;#V025;",
    "#V026;#V027;#V028;#V028A;#V029;#V029A;#V030;#V030A;#V031;#V031A;#V032;#V033;#V033A;#V034;",
    "#V035;#V036;#V037;#V037A;#V038;#V039;#V040;#V040A;#W001;#W002;#W003;#W003A;#W004;#W005;",
    "#W006;#W007;#W008;#W009;#W009A;#W010;#W010A;#W011;#W012;#W013;#W014;#W014A;#W015;#W016;",
    "#W017;#W017A;#W018;#W018A;#W019;#W020;#W021;#W022;#W023;#W024;#W024A;#W025;#X001;#X002;",
    "#X003;#X004;#X004A;#X004B;#X005;#X006;#X006A;#X007;#X008;#X008A;#Y001;#Y001A;#Y002;#Y003;",
    "#Y004;#Y005;#Y006;#Y007;#Y008;#Z001;#Z002;#Z002A;#Z002B;#Z002C;#Z002D;#Z003;#Z003A;#Z003B;",
    "#Z004;#Z004A;#Z005;#Z005A;#Z006;#Z007;#Z008;#Z009;#Z010;#Z011;#Z012;#Z013;#Z014;#Z015;",
    "#Z015A;#Z015B;#Z015C;#Z015D;#Z015E;#Z015F;#Z015G;#Z015H;#Z015I;#Z016;#Z016A;#Z016B;#Z016C;",
    "#Z016D;#Z016E;#Z016F;#Z016G;#Z016H;#AA001;#AA002;#AA003;#AA004;#AA005;#AA006;#AA007;",
    "#AA007A;#AA007B;#AA008;#AA009;#AA010;#AA011;#AA012;#AA013;#AA014;#AA015;#AA016;#AA017;",
    "#AA018;#AA019;#AA020;#AA021;#AA022;#AA023;#AA024;#AA025;#AA026;#AA027;#AA028;#AA029;#AA030;",
    "#AA031;#AA032;;#obJOINER;#oiJOINER;#INSERT AT TOP START;%umSTART;%TOP END;%umEND;#vhom;",
    "#BEGIN SEGMENT;#END SEGMENT"])]

end Tweaks.Text
