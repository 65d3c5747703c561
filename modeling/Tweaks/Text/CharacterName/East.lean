/-!
# Names of letters and signs of East Asia, and of some other alphabets

The names that Unicode gives to characters, run by run: each after the other from the first one
of the run.  A mark at the start of a name says how many words it has in common with the one
before it, and small letters stand for common words.
-/

namespace Tweaks.Text

/-- The names of letters and signs of East Asia, and of some other alphabets. -/
def eastNames : List (Nat × List String) := [
  (0x3000, ["ujzc;!sb;!veta;DITTOoq;JAPANESE INDUSTRIAL STANDARDoh;ujITERATIONoq;!CLOSINGoq;",
    "!rerx;odsyor;hsyor;odlsyor;hlsyor;odunor;hunor;odolunor;holunor;odokLENTICULARor;",
    "hokLENTICULARor;POSTALoq;GETAoq;odvzymor;hvzymor;odolLENTICULARor;holLENTICULARor;",
    "odolvzymor;holvzymor;odoloyor;holoyor;WAVEwt;pglPRIMErwoq;lPRIMErwoq;uolPRIMErwoq;",
    "POSTALoqqp;HANGZHOU NUMERALpk;#pj;#of;#pd;#ph;#rt;#pi;#pa;#ql;ujLEVELskoq;!RISINGskoq;",
    "!DEPARTINGskoq;!ENTERINGskoq;HANGULqrpnskoq;!lpnskoq;WAVYwt;obKANA REPEAToq;",
    "$bVOICED SOUNDoq;$oqqwqh;$bVOICED SOUNDoqqwqh;$oqqfqh;qxPOSTALoq;ujTELEGRAPHtqFEEDtfoh;",
    "HANGZHOU NUMERALvo;#tb;#xc;obujITERATIONoq;MASUoq;PART ALTERNATIONoq;ujVARIATION INDICATOR;",
    "!qhFILLzc;;HIRAGANAadA;#A;#dI;#I;#dU;#U;#dE;#E;#dO;#O;#KA;#GA;#KI;#GI;#KU;#GU;#KE;#GE;#KO;",
    "#GO;#SA;#ZA;#SI;#ZI;#SU;#ZU;#SE;#ZE;#SO;#ZO;#TA;#DA;#TI;#DI;#dTU;#TU;#DU;#TE;#DE;#vt;#DO;",
    "#NA;#NI;#NU;#NE;#NO;#HA;#BA;#PA;#HI;#BI;#PI;#HU;#BU;#PU;#HE;#BE;#PE;#HO;#BO;#PO;#MA;#MI;",
    "#MU;#ME;#MO;#dYA;#YA;#dYU;#YU;#dYO;#YO;#RA;#RI;#RU;#RE;#RO;#dWA;#WA;#WI;#WE;#WO;#N;#VU;",
    "#dKA;$KE;;;rayyVOICED SOUNDoq;#SEMI-VOICED SOUNDoq;yyVOICED SOUNDoq;!SEMI-VOICED SOUNDoq;",
    "HIRAGANA ITERATIONoq;!VOICED ITERATIONoq;!ueYORI;yylHYPHEN;zxadA;#A;#dI;#I;#dU;#U;#dE;#E;",
    "#dO;#O;#KA;#GA;#KI;#GI;#KU;#GU;#KE;#GE;#KO;#GO;#SA;#ZA;#SI;#ZI;#SU;#ZU;#SE;#ZE;#SO;#ZO;#TA;",
    "#DA;#TI;#DI;#dTU;#TU;#DU;#TE;#DE;#vt;#DO;#NA;#NI;#NU;#NE;#NO;#HA;#BA;#PA;#HI;#BI;#PI;#HU;",
    "#BU;#PU;#HE;#BE;#PE;#HO;#BO;#PO;#MA;#MI;#MU;#ME;#MO;#dYA;#YA;#dYU;#YU;#dYO;#YO;#RA;#RI;#RU;",
    "#RE;#RO;#dWA;#WA;#WI;#WE;#WO;#N;#VU;#dKA;$KE;#VA;#VI;#VE;#VO;!ompn;yyPROLONGED SOUNDoq;",
    "zxITERATIONoq;!VOICED ITERATIONoq;!ueKOTO"]),
  (0x3105, ["BOPOMOFOaB;#P;#M;#F;#D;#T;#N;#L;#G;#K;#H;#J;#Q;#X;#ZH;#CH;#SH;#R;#Z;#C;#S;#A;#O;#E;",
    "#EH;#AI;#EI;#AU;#OU;#AN;#EN;#ANG;#ENG;#ER;#I;#U;#IU;#V;#NG;#GN;#IH;#Obpni;#NN;;",
    "HANGULaKIYEOK;#SSANGKIYEOK;#KIYEOK-SIOS;#NIEUN;#NIEUN-CIEUC;#NIEUN-HIEUH;#TIKEUT;",
    "#SSANGTIKEUT;#RIEUL;#RIEUL-KIYEOK;#RIEUL-MIEUM;#RIEUL-PIEUP;#RIEUL-SIOS;#RIEUL-THIEUTH;",
    "#RIEUL-PHIEUPH;#RIEUL-HIEUH;#MIEUM;#PIEUP;#SSANGPIEUP;#PIEUP-SIOS;#SIOS;#SSANGSIOS;#IEUNG;",
    "#CIEUC;#SSANGCIEUC;#CHIEUCH;#KHIEUKH;#THIEUTH;#PHIEUPH;#HIEUH;#A;#AE;#YA;#YAE;#EO;#E;#YEO;",
    "#YE;#O;#WA;#WAE;#OE;#YO;#U;#WEO;#WE;#WI;#YU;#EU;#YI;#I;!FILLER;!aSSANGNIEUN;#NIEUN-TIKEUT;",
    "#NIEUN-SIOS;#NIEUN-PANSIOS;#RIEUL-KIYEOK-SIOS;#RIEUL-TIKEUT;#RIEUL-PIEUP-SIOS;",
    "#RIEUL-PANSIOS;#RIEUL-YEORINHIEUH;#MIEUM-PIEUP;#MIEUM-SIOS;#MIEUM-PANSIOS;#KAPYEOUNMIEUM;",
    "#PIEUP-KIYEOK;#PIEUP-TIKEUT;#PIEUP-SIOS-KIYEOK;#PIEUP-SIOS-TIKEUT;#PIEUP-CIEUC;",
    "#PIEUP-THIEUTH;#KAPYEOUNPIEUP;#KAPYEOUNSSANGPIEUP;#SIOS-KIYEOK;#SIOS-NIEUN;#SIOS-TIKEUT;",
    "#SIOS-PIEUP;#SIOS-CIEUC;#PANSIOS;#SSANGIEUNG;#YESIEUNG;#YESIEUNG-SIOS;#YESIEUNG-PANSIOS;",
    "#KAPYEOUNPHIEUPH;#SSANGHIEUH;#YEORINHIEUH;#YO-YA;#YO-YAE;#YO-I;#YU-YEO;#YU-YE;#YU-I;#ARAEA;",
    "#ARAEAE;;ujANNOTATION LINKINGoq;#wcoq;#pkoq;#pjoq;#ofoq;#pdoq;#TOPoq;#omoq;#umoq;#FIRSToq;",
    "#SECONDoq;#THIRDoq;#FOURTHoq;#HEAVENoq;#EARTHoq;#MANoq;BOPOMOFOaBU;#ZI;#JI;#GU;#EE;#ENN;",
    "#OO;#ONN;#IR;#ANN;#INN;#UNN;#IM;#NGG;#AINN;#AUNN;#AM;#OM;#ONG;#INNN;!naP;$T;$K;$H;!aGH;#LH;",
    "#ZY;!naG;!aGW;#KW;#OE;#AH;CJKogT;#WG;#XG;#BXG;#SW;#HZZ;#HZG;#HP;#HZWG;#SZWG;#HZT;#HZZP;",
    "#HPWG;#HZW;#HZZZ;#N;#H;#S;#P;#SP;#D;#HZ;#HG;#SZ;#SWZ;#ST;#SG;#PD;#PZ;#TN;#SZZ;#SWG;#HXWG;",
    "#HZZZG;#PG;#Q"]),
  (0x31f0, ["zxadKU;$SI;$SU;$vt;$NU;$HA;$HI;$HU;$HE;$HO;$MU;$RA;$RI;$RU;$RE;$RO;",
    "PARENTHESIZED HANGUL KIYEOK;#NIEUN;#TIKEUT;#RIEUL;#MIEUM;#PIEUP;#SIOS;#IEUNG;#CIEUC;",
    "#CHIEUCH;#KHIEUKH;#THIEUTH;#PHIEUPH;#HIEUH;#KIYEOK A;#NIEUN A;#TIKEUT A;#RIEUL A;#MIEUM A;",
    "#PIEUP A;#SIOS A;#IEUNG A;#CIEUC A;#CHIEUCH A;#KHIEUKH A;#THIEUTH A;#PHIEUPH A;#HIEUH A;",
    "#CIEUC U;!KOREAN CHARACTER OJEON;$O HU;;!IDEOGRAPHpk;#pj;#of;#pd;#ph;#rt;#pi;#pa;#ql;#vo;",
    "#MOON;#FIRE;#WATER;#WOOD;#METAL;#EARTH;#SUN;#STOCK;#HAVE;#SOCIETY;#NAME;#SPECIAL;",
    "#FINANCIAL;#CONGRATULATION;#LABOR;#REPRESENT;#CALL;#STUDY;#SUPERVISE;#ENTERPRISE;#RESOURCE;",
    "#ALLIANCE;#FESTIVAL;#REST;#SELF;#REACH;qxIDEOGRAPHsv;#KINDERGARTEN;#SCHOOL;#KOTO;",
    "!revoONokoy;#tbONokoy;#xcONokoy;#FORTY ONokoy;#wbONokoy;#SIXTY ONokoy;#swONokoy;",
    "#EIGHTY ONokoy;PARTNERSHIPg;qxretbpk;$pj;$of;$pd;$ph;$rt;$pi;$pa;$ql;#xc;$pk;$pj;$of;$pd;",
    "$ph;!HANGUL KIYEOK;#NIEUN;#TIKEUT;#RIEUL;#MIEUM;#PIEUP;#SIOS;#IEUNG;#CIEUC;#CHIEUCH;",
    "#KHIEUKH;#THIEUTH;#PHIEUPH;#HIEUH;#KIYEOK A;#NIEUN A;#TIKEUT A;#RIEUL A;#MIEUM A;#PIEUP A;",
    "#SIOS A;#IEUNG A;#CIEUC A;#CHIEUCH A;#KHIEUKH A;#THIEUTH A;#PHIEUPH A;#HIEUH A;",
    "!KOREAN CHARACTER CHAMKO;$JUEUI;!HANGUL IEUNG U;KOREAN STANDARDoh;qxIDEOGRAPHpk;#pj;#of;",
    "#pd;#ph;#rt;#pi;#pa;#ql;#vo;#MOON;#FIRE;#WATER;#WOOD;#METAL;#EARTH;#SUN;#STOCK;#HAVE;",
    "#SOCIETY;#NAME;#SPECIAL;#FINANCIAL;#CONGRATULATION;#LABOR;#SECRET;#MALE;#FEMALE;#SUITABLE;",
    "#EXCELLENT;#PRINT;#ATTENTION;#ITEM;#REST;#COPY;#CORRECT;#st;#rl;#uo;#od;#h;#MEDICINE;",
    "#RELIGION;#STUDY;#SUPERVISE;#ENTERPRISE;#RESOURCE;#ALLIANCE;#NIGHT;!rexcrt;$pi;$pa;$ql;",
    "#FORTY;$pk;$pj;$of;$pd;$ph;$rt;$pi;$pa;$ql;#wb;ujTELEGRAPHohFOR JANUARY;%FEBRUARY;%MARCH;",
    "%APRIL;%MAY;%JUNE;%JULY;%AUGUST;%SEPTEMBER;%OCTOBER;%NOVEMBER;%DECEMBER;oyHG;!ERG;!EV;",
    "LIMITED LIABILITYg;qxzxA;#I;#U;#E;#O;#KA;#KI;#KU;#KE;#KO;#SA;#SI;#SU;#SE;#SO;#TA;#TI;#TU;",
    "#TE;#vt;#NA;#NI;#NU;#NE;#NO;#HA;#HI;#HU;#HE;#HO;#MA;#MI;#MU;#ME;#MO;#YA;#YU;#YO;#RA;#RI;",
    "#RU;#RE;#RO;#WA;#WI;#WE;#WO;oyERA NAME REIWA;!APAATO;!ARUHUA;!ANPEA;!AARU;!ININGU;!INTI;",
    "!UON;!ESUKUUDO;!EEKAA;!ONSU;!OOMU;!KAIRI;!KARATTO;!KARORII;!GARON;!GANMA;!GIGA;!GINII;",
    "!KYURII;!GIRUDAA;!KIRO;!KIROGURAMU;!KIROMEETORU;!KIROWATTO;!GURAMU;!GURAMUTON;!KURUZEIRO;",
    "!KUROONE;!KEESU;!KORUNA;!KOOPO;!SAIKURU;!SANTIIMU;!SIRINGU;!SENTI;!SENTO;!DAASU;!DESI;",
    "!DORU;!TON;!NANO;!NOTTO;!HAITU;!PAASENTO;!PAATU;!BAARERU;!PIASUTORU;!PIKURU;!PIKO;!BIRU;",
    "!HUARADDO;!HUIITO;!BUSSYERU;!HURAN;!HEKUTAARU;!PESO;!PENIHI;!HERUTU;!PENSU;!PEEZI;!BEETA;",
    "!POINTO;!BORUTO;!HON;!PONDO;!HOORU;!HOON;!MAIKURO;!MAIRU;!MAHHA;!MARUKU;!MANSYON;!MIKURON;",
    "!MIRI;!MIRIBAARU;!MEGA;!MEGATON;!MEETORU;!YAADO;!YAARU;!YUAN;!RITTORU;!RIRA;!RUPII;",
    "!RUUBURU;!REMU;!RENTOGEN;!WATTO;ujTELEGRAPHohFOR HOURrx;&pk;&pj;&of;&pd;&ph;&rt;&pi;&pa;",
    "&ql;&vo;&ELEVEN;&TWELVE;&THIRTEEN;&FOURTEEN;&FIFTEEN;&SIXTEEN;&SEVENTEEN;&EIGHTEEN;",
    "&NINETEEN;&tb;&TWENTY-ONE;&TWENTY-TWO;&TWENTY-THREE;&TWENTY-FOUR;oyHPA;!DA;!AU;!ry;!OV;!PC;",
    "!DM;#sn;#CUBED;!IU;!ERA NAME HEISEI;$SYOUWA;$TAISYOU;$MEIZI;!CORPORATION;!PA AMPS;!NA;",
    "!MU A;!MA;!KA;!KB;!MB;!GB;!CAL;!KCAL;!PF;!NF;!MU F;#G;!MG;!KG;!HZ;!KHZ;!MHZ;!GHZ;!THZ;",
    "!MU L;!ML;!DL;!KL;!FM;!NM;!MU M;!MM;!CM;!KM;!MMsn;!CMsn;!Msn;!KMsn;!MM CUBED;!CM CUBED;",
    "!M CUBED;!KM CUBED;!MrfS;%sn;!PA;!KPA;!MPA;!GPA;!RAD;#rfS;%sn;!PS;!NS;!MU S;!MS;!PV;!NV;",
    "!MU V;!MV;!KV;!MV MEGA;!PW;!NW;!MU W;!MW;!KW;!MW MEGA;!K OHM;!M OHM;!AM;!BQ;!CC;!CD;!CrfKG;",
    "!CO;!DB;!GY;!HA;!HP;!IN;!KK;!KMc;!KT;!LM;!LN;!LOG;!LX;!MBd;!MIL;!MOL;!PH;!PM;!PPM;!PR;!SR;",
    "!SV;!WB;!VrfM;!ArfM;ujTELEGRAPHohFOR DAYpk;&pj;&of;&pd;&ph;&rt;&pi;&pa;&ql;&vo;&ELEVEN;",
    "&TWELVE;&THIRTEEN;&FOURTEEN;&FIFTEEN;&SIXTEEN;&SEVENTEEN;&EIGHTEEN;&NINETEEN;&tb;",
    "&TWENTY-ONE;&TWENTY-TWO;&TWENTY-THREE;&TWENTY-FOUR;&TWENTY-FIVE;&TWENTY-SIX;&TWENTY-SEVEN;",
    "&TWENTY-EIGHT;&TWENTY-NINE;&xc;&THIRTY-ONE;oyGAL"]),
  (0x4dc0, ["HEXAGRAM FOR THE CREATIVE HEAVEN;$RECEPTIVE EARTH;#DIFFICULTY AT THE BEGINNING;",
    "#YOUTHFUL FOLLY;#WAITING;#CONFLICT;#THE ARMY;#HOLDING TOGETHER;#dTAMING;#TREADING;#PEACE;",
    "#STANDSTILL;#FELLOWSHIP;#GREAT POSSESSION;#MODESTY;#ENTHUSIASM;#FOLLOWING;",
    "#WORK ON THE DECAYED;#APPROACH;#CONTEMPLATION;#BITINGzd;#GRACE;#SPLITTING APART;#RETURN;",
    "#INNOCENCE;#GREAT TAMING;#znCORNERS;#GREAT PREPONDERANCE;#THE ABYSMAL WATER;$CLINGING FIRE;",
    "#INFLUENCE;#DURATION;#RETREAT;#GREAT POWER;#PROGRESS;#DARKENINGwhTHEpy;#THE FAMILY;",
    "#OPPOSITION;#OBSTRUCTION;#DELIVERANCE;#DECREASE;#INCREASE;#BREAKTHROUGH;#COMINGvtMEET;",
    "#GATHERING TOGETHER;#PUSHING UPWARD;#OPPRESSION;#THE WELL;#REVOLUTION;#THE CAULDRON;",
    "$AROUSING THUNDER;$KEEPING STILL MOUNTAIN;#DEVELOPMENT;#THE MARRYING MAIDEN;#ABUNDANCE;",
    "#THE WANDERER;$GENTLE WIND;$JOYOUS LAKE;#DISPERSION;#LIMITATION;#INNER TRUTH;",
    "#dPREPONDERANCE;#AFTER COMPLETION;#BEFORE COMPLETION"]),
  (0xa000, ["YIvyIT;#IX;#I;#IP;#IET;#IEX;#IE;#IEP;#AT;#AX;#A;#AP;#UOX;#UO;#UOP;#OT;#OX;#O;#OP;",
    "#EX;#E;#WU;#BIT;#BIX;#BI;#BIP;#BIET;#BIEX;#BIE;#BIEP;#BAT;#BAX;#BA;#BAP;#BUOX;#BUO;#BUOP;",
    "#BOT;#BOX;#BO;#BOP;#BEX;#BE;#BEP;#BUT;#BUX;#BU;#BUP;#BURX;#BUR;#BYT;#BYX;#BY;#BYP;#BYRX;",
    "#BYR;#PIT;#PIX;#PI;#PIP;#PIEX;#PIE;#PIEP;#PAT;#PAX;#PA;#PAP;#PUOX;#PUO;#PUOP;#POT;#POX;#PO;",
    "#POP;#PUT;#PUX;#PU;#PUP;#PURX;#PUR;#PYT;#PYX;#PY;#PYP;#PYRX;#PYR;#BBIT;#BBIX;#BBI;#BBIP;",
    "#BBIET;#BBIEX;#BBIE;#BBIEP;#BBAT;#BBAX;#BBA;#BBAP;#BBUOX;#BBUO;#BBUOP;#BBOT;#BBOX;#BBO;",
    "#BBOP;#BBEX;#BBE;#BBEP;#BBUT;#BBUX;#BBU;#BBUP;#BBURX;#BBUR;#BBYT;#BBYX;#BBY;#BBYP;#NBIT;",
    "#NBIX;#NBI;#NBIP;#NBIEX;#NBIE;#NBIEP;#NBAT;#NBAX;#NBA;#NBAP;#NBOT;#NBOX;#NBO;#NBOP;#NBUT;",
    "#NBUX;#NBU;#NBUP;#NBURX;#NBUR;#NBYT;#NBYX;#NBY;#NBYP;#NBYRX;#NBYR;#HMIT;#HMIX;#HMI;#HMIP;",
    "#HMIEX;#HMIE;#HMIEP;#HMAT;#HMAX;#HMA;#HMAP;#HMUOX;#HMUO;#HMUOP;#HMOT;#HMOX;#HMO;#HMOP;",
    "#HMUT;#HMUX;#HMU;#HMUP;#HMURX;#HMUR;#HMYX;#HMY;#HMYP;#HMYRX;#HMYR;#MIT;#MIX;#MI;#MIP;#MIEX;",
    "#MIE;#MIEP;#MAT;#MAX;#MA;#MAP;#MUOT;#MUOX;#MUO;#MUOP;#MOT;#MOX;#MO;#MOP;#MEX;#ME;#MUT;#MUX;",
    "#MU;#MUP;#MURX;#MUR;#MYT;#MYX;#MY;#MYP;#FIT;#FIX;#FI;#FIP;#FAT;#FAX;#FA;#FAP;#FOX;#FO;#FOP;",
    "#FUT;#FUX;#FU;#FUP;#FURX;#FUR;#FYT;#FYX;#FY;#FYP;#VIT;#VIX;#VI;#VIP;#VIET;#VIEX;#VIE;#VIEP;",
    "#VAT;#VAX;#VA;#VAP;#VOT;#VOX;#VO;#VOP;#VEX;#VEP;#VUT;#VUX;#VU;#VUP;#VURX;#VUR;#VYT;#VYX;",
    "#VY;#VYP;#VYRX;#VYR;#DIT;#DIX;#DI;#DIP;#DIEX;#DIE;#DIEP;#DAT;#DAX;#DA;#DAP;#DUOX;#DUO;#pn;",
    "#DOX;#DO;#DOP;#DEX;#DE;#DEP;#DUT;#DUX;#DU;#DUP;#DURX;#DUR;#TIT;#TIX;#TI;#TIP;#TIEX;#TIE;",
    "#TIEP;#TAT;#TAX;#TA;#TAP;#TUOT;#TUOX;#TUO;#TUOP;#TOT;#TOX;#vt;#TOP;#TEX;#TE;#TEP;#TUT;#TUX;",
    "#TU;#TUP;#TURX;#TUR;#DDIT;#DDIX;#DDI;#DDIP;#DDIEX;#DDIE;#DDIEP;#DDAT;#DDAX;#zm;#DDAP;",
    "#DDUOX;#DDUO;#DDUOP;#DDOT;#DDOX;#DDO;#DDOP;#DDEX;#DDE;#DDEP;#DDUT;#DDUX;#DDU;#DDUP;#DDURX;",
    "#DDUR;#NDIT;#NDIX;#NDI;#NDIP;#NDIEX;#NDIE;#NDAT;#NDAX;#NDA;#NDAP;#NDOT;#NDOX;#NDO;#NDOP;",
    "#NDEX;#NDE;#NDEP;#NDUT;#NDUX;#NDU;#NDUP;#NDURX;#NDUR;#HNIT;#HNIX;#HNI;#HNIP;#HNIET;#HNIEX;",
    "#HNIE;#HNIEP;#HNAT;#HNAX;#HNA;#HNAP;#HNUOX;#HNUO;#HNOT;#HNOX;#HNOP;#HNEX;#HNE;#HNEP;#HNUT;",
    "#NIT;#NIX;#NI;#NIP;#NIEX;#NIE;#NIEP;#NAX;#NA;#NAP;#NUOX;#NUO;#NUOP;#xx;#NOX;#NO;#NOP;#NEX;",
    "#NE;#NEP;#NUT;#NUX;#NU;#NUP;#NURX;#NUR;#HLIT;#HLIX;#HLI;#HLIP;#HLIEX;#HLIE;#HLIEP;#HLAT;",
    "#HLAX;#HLA;#HLAP;#HLUOX;#HLUO;#HLUOP;#HLOX;#HLO;#HLOP;#HLEX;#HLE;#HLEP;#HLUT;#HLUX;#HLU;",
    "#HLUP;#HLURX;#HLUR;#HLYT;#HLYX;#HLY;#HLYP;#HLYRX;#HLYR;#LIT;#LIX;#LI;#LIP;#LIET;#LIEX;#LIE;",
    "#LIEP;#LAT;#LAX;#LA;#LAP;#LUOT;#LUOX;#LUO;#LUOP;#LOT;#LOX;#LO;#LOP;#LEX;#LE;#LEP;#LUT;#LUX;",
    "#LU;#LUP;#LURX;#LUR;#LYT;#LYX;#LY;#LYP;#LYRX;#LYR;#GIT;#GIX;#GI;#GIP;#GIET;#GIEX;#GIE;",
    "#GIEP;#GAT;#GAX;#GA;#GAP;#GUOT;#GUOX;#GUO;#GUOP;#GOT;#GOX;#GO;#GOP;#GET;#GEX;#GE;#GEP;#GUT;",
    "#GUX;#GU;#GUP;#GURX;#GUR;#KIT;#KIX;#KI;#KIP;#KIEX;#KIE;#KIEP;#KAT;#KAX;#KA;#KAP;#KUOX;#KUO;",
    "#KUOP;#KOT;#KOX;#KO;#KOP;#KET;#KEX;#KE;#KEP;#KUT;#KUX;#KU;#KUP;#KURX;#KUR;#GGIT;#GGIX;#GGI;",
    "#GGIEX;#GGIE;#GGIEP;#GGAT;#GGAX;#GGA;#GGAP;#GGUOT;#GGUOX;#GGUO;#GGUOP;#GGOT;#GGOX;#GGO;",
    "#GGOP;#GGET;#GGEX;#GGE;#GGEP;#GGUT;#GGUX;#GGU;#GGUP;#GGURX;#GGUR;#MGIEX;#MGIE;#MGAT;#MGAX;",
    "#MGA;#MGAP;#MGUOX;#MGUO;#MGUOP;#MGOT;#MGOX;#MGO;#MGOP;#MGEX;#MGE;#MGEP;#MGUT;#MGUX;#MGU;",
    "#MGUP;#MGURX;#MGUR;#HXIT;#HXIX;#HXI;#HXIP;#HXIET;#HXIEX;#HXIE;#HXIEP;#HXAT;#HXAX;#HXA;",
    "#HXAP;#HXUOT;#HXUOX;#HXUO;#HXUOP;#HXOT;#HXOX;#HXO;#HXOP;#HXEX;#HXE;#HXEP;#NGIEX;#NGIE;",
    "#NGIEP;#NGAT;#NGAX;#wd;#NGAP;#NGUOT;#NGUOX;#NGUO;#NGOT;#NGOX;#NGO;#NGOP;#NGEX;#NGE;#NGEP;",
    "#HIT;#HIEX;#HIE;#HAT;#HAX;#HA;#HAP;#HUOT;#HUOX;#HUO;#HUOP;#HOT;#HOX;#HO;#HOP;#HEX;#HE;#HEP;",
    "#WAT;#WAX;#WA;#WAP;#WUOX;#WUO;#WUOP;#WOX;#WO;#WOP;#WEX;#WE;#WEP;#ZIT;#ZIX;#ZI;#ZIP;#ZIEX;",
    "#ZIE;#ZIEP;#ZAT;#ZAX;#ZA;#ZAP;#ZUOX;#ZUO;#ZUOP;#ZOT;#ZOX;#ZO;#ZOP;#ZEX;#ZE;#ZEP;#ZUT;#ZUX;",
    "#ZU;#ZUP;#ZURX;#ZUR;#ZYT;#ZYX;#ZY;#ZYP;#ZYRX;#ZYR;#CIT;#CIX;#CI;#CIP;#CIET;#CIEX;#CIE;",
    "#CIEP;#CAT;#CAX;#CA;#CAP;#CUOX;#CUO;#CUOP;#COT;#COX;#CO;#COP;#CEX;#CE;#CEP;#CUT;#CUX;#CU;",
    "#CUP;#CURX;#CUR;#CYT;#CYX;#CY;#CYP;#CYRX;#CYR;#ZZIT;#ZZIX;#ZZI;#ZZIP;#ZZIET;#ZZIEX;#ZZIE;",
    "#ZZIEP;#ZZAT;#ZZAX;#ZZA;#ZZAP;#ZZOX;#ZZO;#ZZOP;#ZZEX;#ZZE;#ZZEP;#ZZUX;#ZZU;#ZZUP;#ZZURX;",
    "#ZZUR;#ZZYT;#ZZYX;#ZZY;#ZZYP;#ZZYRX;#ZZYR;#NZIT;#NZIX;#NZI;#NZIP;#NZIEX;#NZIE;#NZIEP;#NZAT;",
    "#NZAX;#NZA;#NZAP;#NZUOX;#NZUO;#NZOX;#NZOP;#NZEX;#NZE;#NZUX;#NZU;#NZUP;#NZURX;#NZUR;#NZYT;",
    "#NZYX;#NZY;#NZYP;#NZYRX;#NZYR;#SIT;#rt;#SI;#SIP;#SIEX;#SIE;#SIEP;#SAT;#SAX;#SA;#SAP;#SUOX;",
    "#SUO;#SUOP;#SOT;#SOX;#SO;#SOP;#SEX;#SE;#SEP;#SUT;#SUX;#SU;#SUP;#SURX;#SUR;#SYT;#SYX;#SY;",
    "#SYP;#SYRX;#SYR;#SSIT;#SSIX;#SSI;#SSIP;#SSIEX;#SSIE;#SSIEP;#SSAT;#SSAX;#SSA;#SSAP;#SSOT;",
    "#SSOX;#SSO;#SSOP;#SSEX;#SSE;#SSEP;#SSUT;#SSUX;#SSU;#SSUP;#SSYT;#SSYX;#SSY;#SSYP;#SSYRX;",
    "#SSYR;#ZHAT;#ZHAX;#ZHA;#ZHAP;#ZHUOX;#ZHUO;#ZHUOP;#ZHOT;#ZHOX;#ZHO;#ZHOP;#ZHET;#ZHEX;#ZHE;",
    "#ZHEP;#ZHUT;#ZHUX;#ZHU;#ZHUP;#ZHURX;#ZHUR;#ZHYT;#ZHYX;#ZHY;#ZHYP;#ZHYRX;#ZHYR;#CHAT;#CHAX;",
    "#wx;#CHAP;#CHUOT;#CHUOX;#CHUO;#CHUOP;#CHOT;#CHOX;#CHO;#CHOP;#CHET;#CHEX;#CHE;#CHEP;#CHUX;",
    "#CHU;#CHUP;#CHURX;#CHUR;#CHYT;#CHYX;#CHY;#CHYP;#CHYRX;#CHYR;#RRAX;#RRA;#RRUOX;#RRUO;#RROT;",
    "#RROX;#RRO;#RROP;#RRET;#RREX;#RRE;#RREP;#RRUT;#RRUX;#RRU;#RRUP;#RRURX;#RRUR;#RRYT;#RRYX;",
    "#RRY;#RRYP;#RRYRX;#RRYR;#NRAT;#NRAX;#NRA;#NRAP;#NROX;#NRO;#NROP;#NRET;#NREX;#NRE;#NREP;",
    "#NRUT;#NRUX;#NRU;#NRUP;#NRURX;#NRUR;#NRYT;#NRYX;#NRY;#NRYP;#NRYRX;#NRYR;#SHAT;#SHAX;#wf;",
    "#SHAP;#SHUOX;#SHUO;#SHUOP;#SHOT;#SHOX;#SHO;#SHOP;#SHET;#SHEX;#SHE;#SHEP;#SHUT;#SHUX;#SHU;",
    "#SHUP;#SHURX;#SHUR;#SHYT;#SHYX;#SHY;#SHYP;#SHYRX;#SHYR;#RAT;#RAX;#RA;#RAP;#RUOX;#RUO;#RUOP;",
    "#ROT;#ROX;#RO;#ROP;#REX;#RE;#REP;#RUT;#RUX;#RU;#RUP;#RURX;#RUR;#RYT;#RYX;#RY;#RYP;#RYRX;",
    "#RYR;#JIT;#JIX;#JI;#JIP;#JIET;#JIEX;#JIE;#JIEP;#JUOT;#JUOX;#JUO;#JUOP;#JOT;#JOX;#JO;#JOP;",
    "#JUT;#JUX;#JU;#JUP;#JURX;#JUR;#JYT;#JYX;#JY;#JYP;#JYRX;#JYR;#QIT;#QIX;#QI;#QIP;#QIET;#QIEX;",
    "#QIE;#QIEP;#QUOT;#QUOX;#QUO;#QUOP;#QOT;#QOX;#QO;#QOP;#QUT;#QUX;#QU;#QUP;#QURX;#QUR;#QYT;",
    "#QYX;#QY;#QYP;#QYRX;#QYR;#JJIT;#JJIX;#JJI;#JJIP;#JJIET;#JJIEX;#JJIE;#JJIEP;#JJUOX;#JJUO;",
    "#JJUOP;#JJOT;#JJOX;#JJO;#JJOP;#JJUT;#JJUX;#JJU;#JJUP;#JJURX;#JJUR;#JJYT;#JJYX;#JJY;#JJYP;",
    "#NJIT;#NJIX;#NJI;#NJIP;#NJIET;#NJIEX;#NJIE;#NJIEP;#NJUOX;#NJUO;#NJOT;#NJOX;#NJO;#NJOP;",
    "#NJUX;#NJU;#NJUP;#NJURX;#NJUR;#NJYT;#NJYX;#NJY;#NJYP;#NJYRX;#NJYR;#NYIT;#NYIX;#NYI;#NYIP;",
    "#NYIET;#NYIEX;#NYIE;#NYIEP;#NYUOX;#NYUO;#NYUOP;#NYOT;#NYOX;#NYO;#NYOP;#NYUT;#NYUX;#NYU;",
    "#NYUP;#XIT;#XIX;#XI;#XIP;#XIET;#XIEX;#XIE;#XIEP;#XUOX;#XUO;#XOT;#XOX;#XO;#XOP;#XYT;#XYX;",
    "#XY;#XYP;#XYRX;#XYR;#YIT;#YIX;#YI;#YIP;#YIET;#YIEX;#YIE;#YIEP;#YUOT;#YUOX;#YUO;#YUOP;#YOT;",
    "#YOX;#YO;#YOP;#YUT;#YUX;#YU;#YUP;#YURX;#YUR;#YYT;#YYX;#YY;#YYP;#YYRX;#YYR;;;;!RADICAL QOT;",
    "#LI;#KIT;#NYIP;#CYP;#SSI;#GGOP;#GEP;#MI;#HXIT;#LYR;#BBUT;#MOP;#YO;#PUT;#HXUO;#TAT;#GA;#ZUP;",
    "#CYT;#DDUR;#BUR;#GGUO;#NYOP;#TU;#OP;#JJUT;#ZOT;#PYT;#HMO;#YIT;#VUR;#SHY;#VEP;#ZA;#JO;#NZUP;",
    "#JJY;#GOT;#JJIE;#WO;#DU;#SHUR;#LIE;#CY;#CUOP;#CIP;#HXOP;#SHAT;#ZUR;#SHOP;#CHE;#ZZIET;#NBIE;",
    "#KE"]),
  (0xa4d0, ["LISUaBA;#PA;#yp;#DA;#TA;#xr;#GA;#KA;#xe;#JA;#CA;#wx;#DZA;#TSA;#TSHA;#MA;#NA;#LA;",
    "#SA;#ZHA;#ZA;#wd;#HA;#XA;#HHA;#FA;#WA;#wf;#YA;#GHA;#A;#AE;#E;#EU;#I;#O;#U;#UE;#UH;#OE;",
    "#skMYA TI;$NA PO;$MYA CYA;%BO;%NA;%JEU;!pssb;#veta;VAIvyEE;#EEN;#HEE;#WEE;#WEEN;#PEE;#BHEE;",
    "#BEE;#MBEE;#KPEE;#MGBEE;#GBEE;#FEE;#VEE;#TEE;#THEE;#DHEE;#DHHEE;#LEE;#REE;#DEE;#NDEE;#SEE;",
    "#SHEE;#ZEE;#ZHEE;#CEE;#JEE;#NJEE;#YEE;#KEE;#NGGEE;#GEE;#MEE;#NEE;#NYEE;#I;#IN;#HI;#HIN;#WI;",
    "#WIN;#PI;#BHI;#BI;#MBI;#KPI;#MGBI;#GBI;#FI;#VI;#TI;#THI;#DHI;#DHHI;#LI;#RI;#DI;#NDI;#SI;",
    "#SHI;#ZI;#ZHI;#CI;#JI;#NJI;#YI;#KI;#NGGI;#GI;#MI;#NI;#NYI;#A;#AN;#NGAN;#HA;#HAN;#WA;#WAN;",
    "#PA;#BHA;#BA;#MBA;#KPA;#KPAN;#MGBA;#GBA;#FA;#VA;#TA;#xr;#zr;#DHHA;#LA;#RA;#DA;#NDA;#SA;#wf;",
    "#ZA;#ZHA;#CA;#JA;#NJA;#YA;#KA;#KAN;#NGGA;#GA;#MA;#NA;#xa;#OO;#OON;#HOO;#WOO;#WOON;#POO;",
    "#BHOO;#BOO;#MBOO;#KPOO;#MGBOO;#GBOO;#FOO;#VOO;#TOO;#THOO;#DHOO;#DHHOO;#LOO;#ROO;#DOO;#NDOO;",
    "#SOO;#SHOO;#ZOO;#ZHOO;#COO;#JOO;#NJOO;#YOO;#KOO;#NGGOO;#GOO;#MOO;#NOO;#NYOO;#U;#UN;#HU;",
    "#HUN;#WU;#WUN;#PU;#BHU;#BU;#MBU;#KPU;#MGBU;#GBU;#FU;#VU;#TU;#THU;#DHU;#DHHU;#LU;#RU;#DU;",
    "#NDU;#SU;#SHU;#ZU;#ZHU;#CU;#JU;#NJU;#YU;#KU;#NGGU;#GU;#MU;#NU;#NYU;#O;#ON;#NGON;#HO;#HON;",
    "#WO;#WON;#PO;#BHO;#BO;#MBO;#KPO;#MGBO;#GBO;#GBON;#FO;#VO;#vt;#THO;#DHO;#DHHO;#LO;#RO;#DO;",
    "#NDO;#SO;#SHO;#ZO;#ZHO;#CO;#JO;#NJO;#YO;#KO;#NGGO;#GO;#MO;#NO;#NYO;#E;#EN;#NGEN;#HE;#HEN;",
    "#WE;#WEN;#PE;#BHE;#BE;#MBE;#KPE;#KPEN;#MGBE;#GBE;#GBEN;#FE;#VE;#TE;#THE;#DHE;#DHHE;#LE;#RE;",
    "#DE;#NDE;#SE;#SHE;#ZE;#ZHE;#CE;#JE;#NJE;#YE;#KE;#NGGE;#NGGEN;#GE;#GEN;#ME;#NE;#NYE;#NG;",
    "#LENGTHENER;!sb;!veta;!svoq;!vyNDOLE FA;$KA;$SOO;!ohFEENG;#KEENG;#TING;#NII;#BANG;#FAA;",
    "#TAA;#DANG;#DOONG;#KUNG;#TONG;#DO-O;#JONG;!qerx;#pk;#pj;#of;#pd;#ph;#rt;#pi;#pa;#ql;",
    "!vyNDOLE MA;$DO"]),
  (0xa640, ["xtcaZEMLYA;!daZEMLYA;!caDZELO;!daDZELO;!capgDZE;!dapgDZE;!cayx;!dayx;!caDJERV;",
    "!daDJERV;!caMONOGRAPH UK;!daMONOGRAPH UK;!caBROADux;!daBROADux;!cavrYER;!davrYER;",
    "!caYERUbBACK YER;!daYERUbBACK YER;!cawqYAT;!dawqYAT;!capgYU;!dapgYU;!cawqA;!dawqA;",
    "!catyroYUS;!datyroYUS;!caBLENDED YUS;!daBLENDED YUS;!cawqtyroYUS;!dawqtyroYUS;!caYN;!daYN;",
    "!capgTSE;!dapgTSE;!caSOFT DE;!daSOFT DE;!caSOFT EL;!daSOFT EL;!caSOFT EM;!daSOFT EM;",
    "!caMONOCULAR O;!daMONOCULAR O;!caBINOCULAR O;!daBINOCULAR O;!calMONOCULAR O;",
    "!dalMONOCULAR O;!aMULTIOCULAR O;raxtVZMET;#voMILLIONSg;#onMILLIONSg;#opMILLIONSg;",
    "SLAVONICqv;raxtaUKRAINIAN IE;$I;$YI;$U;$HARDg;$YERU;$SOFTg;$ux;#KAVYKA;#PAYEROK;xtKAVYKA;",
    "!PAYEROK;!caDWE;!daDWE;!caDZWE;!daDZWE;!caZHWE;!daZHWE;!caCCHE;!daCCHE;!caDZZE;!daDZZE;",
    "!caTEbompe;!daTEbompe;!caTWE;!daTWE;!caTSWE;!daTSWE;!caTSSE;!daTSSE;!caTCHE;!daTCHE;!caHWE;",
    "!daHWE;!caSHWE;!daSHWE;!calO;!dalO;!cazwO;!dazwO;sraxtHARDg;$SOFTg;raxtaEF;$wqE;BAMUMaA;",
    "#KA;#U;#KU;#EE;#REE;#TAE;#O;#NYI;#I;#LA;#PA;#RII;#RIEE;#LEEEE;#MEEEE;#TAA;#NDAA;#NJAEM;#M;",
    "#SUU;#MU;#SHII;#SI;#SHEUX;#SEUX;#KYEE;#KET;#NUAE;#NU;#NJUAE;#YOQ;#SHU;#YUQ;#YA;#NSHA;#KEUX;",
    "#PEUX;#NJEE;#NTEE;#PUE;#WUE;#PEE;#FEE;#RU;#LU;#MI;#NI;#REUX;#RAE;#KEN;#NGKWAEN;#NGGA;#wd;",
    "#SHO;#PUAE;#FU;#FOM;#WA;#NA;#LI;#PI;#LOQ;#KO;#MBEN;#REN;#MEN;#MA;#TI;#KI;#MO;#MBAA;#TET;",
    "#KPA;#vo;#NTUU;#SAMBA;#FAAMAE;#KOVUU;#KOGHOM;!raoqKOQNDON;$TUKWENTIS;!NJAEMLI;!veta;!wg;",
    "!sb;!xy;!svoq"]),
  (0xa700, ["sraCHINESEskYIN PING;%YANG PING;%YIN SHANG;%YANG SHANG;%YIN QU;%YANG QU;%YIN RU;",
    "%YANG RU;#EXTRA-HIGHtmskry;#sttmskry;#MIDtmskry;#uotmskry;#EXTRA-LOWtmskry;",
    "#EXTRA-HIGHtmzjskry;#sttmzjskry;#MIDtmzjskry;#uotmzjskry;#EXTRA-LOWtmzjskry;",
    "#EXTRA-HIGHzjskry;#stzjskry;#MIDzjskry;#uozjskry;#EXTRA-LOWzjskry;#pnobry;$SLASH;$oiry;",
    "#qfhunsy;#vwytf;$qjf;$rpoq;$porpoq;#uoporpoq;#STRESSojstsk;%uosk;szcaEGYPTOLOGICALrj;",
    "!daEGYPTOLOGICALrj;!caEGYPTOLOGICAL AIN;!daEGYPTOLOGICAL AIN;!caHENG;!daHENG;!caTZ;!daTZ;",
    "!caTRESILLO;!daTRESILLO;!caCUATRILLO;!daCUATRILLO;!caCUATRILLObsb;!daCUATRILLObsb;!adcF;%S;",
    "!caAA;!daAA;!caAO;!daAO;!caAU;!daAU;!caAV;!daAV;!caAVboiry;!daAVboiry;!caAY;!daAY;",
    "!capgCbpn;!dapgCbpn;!caKbog;!daKbog;!caKbrbog;!daKbrbog;!caKbogojrbog;!daKbogojrbog;",
    "!caBROKEN L;!daBROKEN L;!caLbstog;!daLbstog;!caObsjogvh;!daObsjogvh;!caObLOOP;!daObLOOP;",
    "!caOO;!daOO;!caPbogzdqt;!daPbogzdqt;!caPbFLOURISH;!daPbFLOURISH;!caPbSQUIRRELus;",
    "!daPbSQUIRRELus;!caQbogzdqt;!daQbogzdqt;!caQbrbog;!daQbrbog;!caR ROTUNDA;!daR ROTUNDA;",
    "!caRUM ROTUNDA;!daRUM ROTUNDA;!caVbrbog;!daVbrbog;!caVY;!daVY;!caVISIGOTHIC Z;",
    "!daVISIGOTHIC Z;!caTHORNbog;!daTHORNbog;!caTHORNbogzdqt;!daTHORNbogzdqt;!caVEND;!daVEND;",
    "!caET;!daET;!caIS;!daIS;!caCON;!daCON;sraUS;szdaDUM;$LUM;$MUM;$NUM;$RUM;!adcRUM;!daTUM;$UM;",
    "!cawzD;!dawzD;!cawzF;!dawzF;!cawzG;$pzwzG;!dapzwzG;!capzL;!dapzL;!cawzR;!dawzR;!cawzS;",
    "!dawzS;!cawzT;!dawzT;srauoosti;#wg;#tduag;szcaSALTILLO;!daSALTILLO;!capzH;!daLbqqpeojBELT;",
    "!aSINOLOGICALpn;!caNbqt;!daNbqt;!caCbry;!daCbry;&tvpe;$Hbtvpe;!caBbFLOURISH;!daBbFLOURISH;",
    "!caFbog;!daFbog;!caVOLAPUK AE;!daVOLAPUK AE;!caVOLAPUK OE;!daVOLAPUK OE;!caVOLAPUK UE;",
    "!daVOLAPUK UE;!caGbyoog;!daGbyoog;!caKbyoog;!daKbyoog;!caNbyoog;!daNbyoog;!caRbyoog;",
    "!daRbyoog;!caSbyoog;!daSbyoog;!caHbpe;$pgseE;$wiG;$LbBELT;$dcI;!adcQ;!capzK;%T;$Jbxk;$CHI;",
    "$BETA;!daBETA;!caux;!daux;!caUbog;!daUbog;!caufA;!daufA;!caufI;!daufI;!caufU;!daufU;",
    "!cayaPOLISH O;!dayaPOLISH O;!caANGLICANA W;!daANGLICANA W;!caCbtvpe;$Sbpe;$Zbtvpe;",
    "$Dbtdogvh;!daDbtdogvh;!caSbtdogvh;!daSbtdogvh"]),
  (0xa7d0, ["szcatywzG;!datywzG;;$lTHORN;;%WYNN;!caomSCOTS S;!daomSCOTS S;!caSIGMOID S;",
    "!daSIGMOID S"]),
  (0xa7f2, ["sracC;$F;$Q;szcapgqhH;!dapgqhH;!EPIGRAPHICaSIDEWAYS I;sracHbog;#drvOE;szadcpzM;",
    "!EPIGRAPHICapgF;%P;$poM;$I LONGA;$woM;SYLOTI NAGRIaA;$I;#gDVISVARA;#aU;$E;$O;#gHASANTA;",
    "#aKO;$KHO;$GO;$GHO;#gqn;#aCO;$CHO;$JO;$JHO;$TTO;$TTHO;$DDO;$DDHO;$vt;$THO;$DO;$DHO;$NO;$PO;",
    "$PHO;$BO;$BHO;$MO;$RO;$LO;$RRO;$SO;$HO;#pvgA;%I;%U;%E;%OO;#POETRY MARK-1;$MARK-2;$MARK-3;",
    "$MARK-4;#gtjHASANTA;;;;tpINDICvlpkte;%qh;$ofxi;$pkSIXTEENTH;%vq;$ofSIXTEENTHS;#teoq;",
    "#PLACEHOLDERoq;#RUPEEoq;#QUANTITYoq"]),
  (0xa840, ["PHAGS-PAaKA;#xe;#GA;#wd;#CA;#wx;#JA;#xa;#TA;#xr;#DA;#NA;#PA;#yp;#BA;#MA;#TSA;#TSHA;",
    "#DZA;#WA;#ZHA;#ZA;#dA;#YA;#RA;#LA;#wf;#SA;#HA;#A;#I;#U;#E;#O;#QA;#XA;#FA;#GGA;#EE;",
    "!SUBJOINEDaWA;$YA;!azl;#wn;#zm;#NNA;#tjYA;#VOICELESSwf;#VOICED HA;#ASPIRATED FA;",
    "!SUBJOINEDaRA;!SUPERFIXEDaRA;!aqz;!qrHEADoq;!lHEADoq;!oqSHAD;#lSHAD"]),
  (0xa880, ["SAURASHTRAgqn;#so;!aA;#AA;#I;#II;#U;#UU;#qoR;$RR;$L;$LL;#E;#EE;#AI;#O;#OO;#AU;#KA;",
    "#xe;#GA;#GHA;#wd;#CA;#wx;#JA;#JHA;#xa;#zl;#wn;#zm;#wy;#NNA;#TA;#xr;#DA;#zr;#NA;#PA;#yp;#BA;",
    "#BHA;#MA;#YA;#RA;#LA;#VA;#wf;#SSA;#SA;#HA;#LLA;!tkgHAARU;!pvgAA;$I;$II;$U;$UU;$qoR;%RR;%L;",
    "%LL;$E;$EE;$AI;$O;$OO;$AU;!gtc;#qz"]),
  (0xa8ce, ["SAURASHTRAwk;!lwk;!qerx;#pk;#pj;#of;#pd;#ph;#rt;#pi;#pa;#ql"]),
  (0xa8e0, ["raDEVANAGARIqerx;$pk;$pj;$of;$pd;$ph;$rt;$pi;$pa;$ql;#aA;$U;$KA;$NA;$PA;$RA;$VI;",
    "#gwp;DEVANAGARIgSPACINGqz;#qztc;#lqztc;#qzpj;$of;$wp;#PUSHPIKA;!GAP FILLER;!CARET;",
    "!HEADSTROKE;!gSIDDHAM;!JAIN OM;!aAY;!pvgAY;KAYAH LIqerx;$pk;$pj;$of;$pd;$ph;$rt;$pi;$pa;",
    "$ql;#aKA;$xe;$GA;$wd;$SA;$wf;$ZA;$xa;$TA;$HTA;$NA;$PA;$yp;$MA;$DA;$BA;$RA;$YA;$LA;$WA;$xr;",
    "$HA;$VA;$CA;$A;$OE;$I;$OO;#pvUE;$E;$U;$EE;$O;#skPLOPHU;$CALYA;%PLOPHU;#gCWI;$SHYA;",
    "REJANGaKA;#GA;#wd;#TA;#DA;#NA;#PA;#BA;#MA;#CA;#JA;#xa;#SA;#RA;#LA;#YA;#WA;#HA;#MBA;#NGGA;",
    "#NDA;#NYJA;#A;!pvgI;$U;$E;$AI;$O;$AU;$EU;$EA;!tkgNG;$N;$R;$H;!tc"]),
  (0xa95f, ["REJANGvboq;HANGUL CHOSEONG TIKEUT-MIEUM;#TIKEUT-PIEUP;#TIKEUT-SIOS;#TIKEUT-CIEUC;",
    "#RIEUL-KIYEOK;#RIEUL-SSANGKIYEOK;#RIEUL-TIKEUT;#RIEUL-SSANGTIKEUT;#RIEUL-MIEUM;",
    "#RIEUL-PIEUP;#RIEUL-SSANGPIEUP;#RIEUL-KAPYEOUNPIEUP;#RIEUL-SIOS;#RIEUL-CIEUC;",
    "#RIEUL-KHIEUKH;#MIEUM-KIYEOK;#MIEUM-TIKEUT;#MIEUM-SIOS;#PIEUP-SIOS-THIEUTH;#PIEUP-KHIEUKH;",
    "#PIEUP-HIEUH;#SSANGSIOS-PIEUP;#IEUNG-RIEUL;#IEUNG-HIEUH;#SSANGCIEUC-HIEUH;#SSANGTHIEUTH;",
    "#PHIEUPH-HIEUH;#HIEUH-SIOS;#SSANGYEORINHIEUH;;;;JAVANESEgPANYANGGA;#CECAK;#LAYAR;#WIGNYAN;",
    "!aA;#I KAWI;$;#II;#U;#PA CEREK;#wdLELET;%RASWADI;#E;#AI;#O;#KA;$SASAK;$MURDA;#GA;$MURDA;",
    "#wd;#CA;$MURDA;#JA;#xaMURDA;#JA MAHAPRANA;#xa;#zl;$MAHAPRANA;#zm;$MAHAPRANA;#NA MURDA;#TA;",
    "$MURDA;#DA;$MAHAPRANA;#NA;#PA;$MURDA;#BA;$MURDA;#MA;#YA;#RA;$AGUNG;#LA;#WA;#SA MURDA;",
    "$MAHAPRANA;$;#HA;!gCECAK TELU;!pvgTARUNG;$TOLONG;$WULU;%MELIK;$SUKU;%MENDUT;$TALING;",
    "$DIRGA MURE;$PEPET;!tkgKERET;$PENGKAL;$CAKRA;!PANGKON;!odRERENGGAN;!hRERENGGAN;!PADA ANDAP;",
    "#MADYA;#LUHUR;#WINDU;#PANGKAT;#LINGSA;#LUNGSI;#ADEG;$ADEG;#PISELEH;!pzPADA PISELEH;;",
    "!PANGRANGKEP;!qerx;#pk;#pj;#of;#pd;#ph;#rt;#pi;#pa;#ql"]),
  (0xa9de, ["JAVANESE PADA TIRTA TUMETES;#ISEN-ISEN;MYANMARaSHAN GHA;$wx;$JHA;$NNA;$BHA;",
    "!gSHAN SAW;!sraSHAN REDUPLICATION;!aTAI LAINGxa;%FA;%GA;%GHA;%JA;%JHA;%zm;%wy;%NNA;",
    "!TAI LAINGqerx;%pk;%pj;%of;%pd;%ph;%rt;%pi;%pa;%ql;!aTAI LAING LLA;%DA;%zr;%BA;%BHA;;",
    "CHAMaA;#I;#U;#E;#AI;#O;#KA;#xe;#GA;#GHA;#NGUE;#wd;#wx;#CHHA;#JA;#JHA;#NHUE;#NHA;#NHJA;#TA;",
    "#xr;#DA;#zr;#NUE;#NA;#zm;#PA;#PPA;#yp;#BA;#BHA;#MUE;#MA;#BBA;#YA;#RA;#LA;#VA;#SSA;#SA;#HA;",
    "!pvgAA;$I;$II;$EI;$U;$OE;$O;$AI;$AU;$UE;!tkgYA;$RA;$LA;$WA"]),
  (0xaa40, ["CHAManK;$G;$NG;!tkgnNG;!anCH;$T;$N;$P;$Y;$R;$L;$SS;!tkgnM;%H;;;!qerx;#pk;#pj;#of;",
    "#pd;#ph;#rt;#pi;#pa;#ql;;;!psSPIRAL;#wk;#lwk;#shwk;MYANMARaKHAMTI GA;$CA;$wx;$JA;$JHA;$xa;",
    "$zl;$wn;$zm;$wy;$zr;$NA;$SA;$HA;$HHA;$FA;!sraKHAMTI REDUPLICATION;!aKHAMTI XA;$ZA;$RA;",
    "!LOGOGRAM KHAMTI OAY;$QN;$HM;!ohAITONrp;$pk;$pj;!aAITON RA;!gPAO KARENsk;#TAI LAING TONE-2;",
    "%TONE-5;!aSHWE PALAUNGwx;%wf;TAI VIETauoKO;$stKO;$uoKHO;$stKHO;$uoKHHO;$stKHHO;$uoGO;$stGO;",
    "$uoNGO;$stNGO;$uoCO;$stCO;$uoCHO;$stCHO;$uoSO;$stSO;$uoNYO;$stNYO;$uoDO;$stDO;$uovt;$stvt;",
    "$uoTHO;$stTHO;$uoNO;$stNO;$uoBO;$stBO;$uoPO;$stPO;$uoPHO;$stPHO;$uoFO;$stFO;$uoMO;$stMO;",
    "$uoYO;$stYO;$uoRO;$stRO;$uoLO;$stLO;$uoVO;$stVO;$uoHO;$stHO;$uoO;$stO;#MAI KANG;#pvAA;$I;",
    "$UE;$U;$E;$O;#MAI KHIT;#pvIA;$UEA;$UA;$AUE;$AY;$AN;$AM;#skMAI EK;%NUENG;%THO;%SONG"]),
  (0xaadb, ["TAI VIETohKON;$NUENG;$SAM;$HO HOI;$KOI KOI;MEETEI MAYEKaE;$O;$wx;$xa;$zl;$wn;$zm;",
    "$wy;$NNA;$wf;$SSA;#pvgII;%UU;%AAI;%AU;%AAU;#CHEIKHAN;#AHANG KHUDAM;#ANJI;#vyREPETITIONoq;",
    "#WORD REPETITIONoq;#pvgso;#tc"]),
  (0xab01, ["ETHIOPICvyTTHU;#TTHI;#TTHAA;#TTHEE;#TTHE;#TTHO;;;#DDHU;#DDHI;#DDHAA;#DDHEE;#DDHE;",
    "#DDHO;;;#DZU;#DZI;#DZAA;#DZEE;#DZE;#DZO"]),
  (0xab20, ["ETHIOPICvyCCHHA;#CCHHU;#CCHHI;#CCHHAA;#CCHHEE;#CCHHE;#CCHHO;;#BBA;#BBU;#BBI;#BBAA;",
    "#BBEE;#BBE;#BBO;;szdaBARREDwa;$A REVERSED-SCHWA;$BLACKLETTER E;$BARRED E;$EbFLOURISH;",
    "$LENIS F;$wiGbxk;$LbpoLAZY S;&lomqc;&omrm;$Mbxk;$Nbxk;$ENGbxk;$BLACKLETTER O;&bog;$seObog;",
    "$poOE;$pzOEbog;(oiog;%O OPEN-O;(bog;$STIRRUP R;!adcRbhLEG;!daR WITHOUT HANDLE;$lR;$Rbxk;",
    "$lRbxk;$wiR;&brm;$BASELINE ESH;$UbtdhLEG;%rybtdhLEG;$UI;$pzUI;$Ubodpe;$CHI;%buohrm;",
    "(odSERIF;$Xbuohrm;&sjodLEG;*ojuohrm;*bSERIF;$YbtdhLEG;srspbposp;!adHENG;$LbpoLAZY S;&omqc;",
    "$Ubodpe;szdaSAKHA YAT;$wqE;$seOE;$UO;$powa;xvadcux;szdaDZuebqqpe;$TSuebqqpe;$pzRbomqc;",
    "sradpzW;#odyh;#hyh"]),
  (0xab70, ["CHEROKEEdaA;$E;$I;$O;$U;$V;$GA;$KA;$GE;$GI;$GO;$GU;$GV;$HA;$HE;$HI;$HO;$HU;$HV;$LA;",
    "$LE;$LI;$LO;$LU;$LV;$MA;$ME;$MI;$MO;$MU;$NA;$HNA;$NAH;$NE;$NI;$NO;$NU;$NV;$QUA;$QUE;$QUI;",
    "$QUO;$QUU;$QUV;$SA;$S;$SE;$SI;$SO;$SU;$SV;$DA;$TA;$DE;$TE;$DI;$TI;$DO;$DU;$DV;$DLA;$TLA;",
    "$TLE;$TLI;$TLO;$TLU;$TLV;$TSA;$TSE;$TSI;$TSO;$TSU;$TSV;$WA;$WE;$WI;$WO;$WU;$WV;$YA;",
    "MEETEI MAYEKaKOK;$SAM;$LAI;$MIT;$PA;$NA;$CHIL;$TIL;$KHOU;$NGOU;$THOU;$WAI;$YANG;$HUK;$UN;",
    "$I;$PHAM;$ATIYA;$GOK;$JHAM;$RAI;$BA;$JIL;$DIL;$GHOU;$DHOU;$BHAM;$KOK LONSUM;$LAI LONSUM;",
    "$MIT LONSUM;$PA LONSUM;$NA LONSUM;$TIL LONSUM;$NGOU LONSUM;$I LONSUM;#pvgONAP;%INAP;%ANAP;",
    "%YENAP;%SOUNAP;%UNAP;%CHEINAP;%NUNG;#CHEIKHEI;#LUM IYEK;#APUN IYEK;;;#qerx;$pk;$pj;$of;$pd;",
    "$ph;$rt;$pi;$pa;$ql"]),
  (0xd7b0, ["HANGUL JUNGSEONG O-YEO;#O-O-I;#YO-A;#YO-AE;#YO-EO;#U-YEO;#U-I-I;#YU-AE;#YU-O;#EU-A;",
    "#EU-EO;#EU-E;#EU-O;#I-YA-O;#I-YAE;#I-YEO;#I-YE;#I-O-I;#I-YO;#I-YU;#I-I;#ARAEA-A;#ARAEA-E"]),
  (0xd7cb, ["HANGUL JONGSEONG NIEUN-RIEUL;#NIEUN-CHIEUCH;#SSANGTIKEUT;#SSANGTIKEUT-PIEUP;",
    "#TIKEUT-PIEUP;#TIKEUT-SIOS;#TIKEUT-SIOS-KIYEOK;#TIKEUT-CIEUC;#TIKEUT-CHIEUCH;",
    "#TIKEUT-THIEUTH;#RIEUL-SSANGKIYEOK;#RIEUL-KIYEOK-HIEUH;#SSANGRIEUL-KHIEUKH;",
    "#RIEUL-MIEUM-HIEUH;#RIEUL-PIEUP-TIKEUT;#RIEUL-PIEUP-PHIEUPH;#RIEUL-YESIEUNG;",
    "#RIEUL-YEORINHIEUH-HIEUH;#KAPYEOUNRIEUL;#MIEUM-NIEUN;#MIEUM-SSANGNIEUN;#SSANGMIEUM;",
    "#MIEUM-PIEUP-SIOS;#MIEUM-CIEUC;#PIEUP-TIKEUT;#PIEUP-RIEUL-PHIEUPH;#PIEUP-MIEUM;#SSANGPIEUP;",
    "#PIEUP-SIOS-TIKEUT;#PIEUP-CIEUC;#PIEUP-CHIEUCH;#SIOS-MIEUM;#SIOS-KAPYEOUNPIEUP;",
    "#SSANGSIOS-KIYEOK;#SSANGSIOS-TIKEUT;#SIOS-PANSIOS;#SIOS-CIEUC;#SIOS-CHIEUCH;#SIOS-THIEUTH;",
    "#SIOS-HIEUH;#PANSIOS-PIEUP;#PANSIOS-KAPYEOUNPIEUP;#YESIEUNG-MIEUM;#YESIEUNG-HIEUH;",
    "#CIEUC-PIEUP;#CIEUC-SSANGPIEUP;#SSANGCIEUC;#PHIEUPH-SIOS;#PHIEUPH-THIEUTH"]),
  (0xfb00, ["szdrvFF;$FI;$FL;$FFI;$FFL;$sjS T;$ST"]),
  (0xfb13, ["ARMENIANdrvMEN NOW;%ECH;%INI;$VEW NOW;$MEN XEH"]),
  (0xfb1d, ["HEBREWaYODbHIRIQ;!POINT JUDEO-SPANISH VARIKA;!rvYIDDISH YOD YOD PATAH;",
    "!aALTERNATIVE AYIN;#WIDErj;$DALET;$HE;$KAF;$LAMED;$nMEM;$RESH;$TAV;#ALTERNATIVEqbg;",
    "#zkbzkpn;%SINpn;%wsojzkpn;(SINpn;#rjbPATAH;%QAMATS;%MAPIQ;#BETbws;#GIMELbws;#DALETbws;",
    "#HEbMAPIQ;#VAVbws;#ZAYINbws;;#TETbws;#YODbws;#nKAFbws;#KAFbws;#LAMEDbws;;#MEMbws;;#NUNbws;",
    "#zubws;;#nPEbws;#PEbws;;#TSADIbws;#QOFbws;#RESHbws;#zkbws;#TAVbws;#VAVbHOLAM;#BETbRAFE;",
    "#KAFbRAFE;#PEbRAFE;!rvrjLAMED;vparjWASLAje;%ne;#BEEHje;$ne;$oce;$pte;#PEHje;$ne;$oce;$pte;",
    "#BEHEHje;$ne;$oce;$pte;#TTEHEHje;$ne;$oce;$pte;#TEHEHje;$ne;$oce;$pte;#TTEHje;$ne;$oce;",
    "$pte;#VEHje;$ne;$oce;$pte;#PEHEHje;$ne;$oce;$pte;#DYEHje;$ne;$oce;$pte;#NYEHje;$ne;$oce;",
    "$pte;#TCHEHje;$ne;$oce;$pte;#TCHEHEHje;$ne;$oce;$pte;#DDAHALje;$ne;#DAHALje;$ne;#DULje;$ne;",
    "#DDALje;$ne;#JEHje;$ne;#RREHje;$ne;#KEHEHje;$ne;$oce;$pte;#GAFje;$ne;$oce;$pte;#GUEHje;$ne;",
    "$oce;$pte;#NGOEHje;$ne;$oce;$pte;#xgGHUNNAje;%ne;#RNOONje;$ne;$oce;$pte;#HEHbthije;(ne;",
    "$GOALje;%ne;%oce;%pte;$DOACHASHMEEje;%ne;%oce;%pte;#thBARREEje;%ne;%bviije;)ne;!ohpni;$m;",
    "#pjqyi;%m;#ofqyi;%m;%ppooi;(m;#pdqyi;%m;#lobrym;#pjqyVERTICALLYi;&m;#rm;#dTAHi;%m;#WASLAi"]),
  (0xfbd3, ["vpaNGje;$ne;$oce;$pte;#Uje;$ne;#OEje;$ne;#YUje;$ne;#Ubviije;#VEje;$ne;",
    "#KIRGHIZ OEje;%ne;$YUje;%ne;#Eje;$ne;$oce;$pte;#UIGHUR KAZAKH KIRGHIZrjqdoce;)pte;",
    "!rvthbviibrjje;*ne;)AEje;*ne;)WAWje;*ne;)Uje;*ne;)OEje;*ne;)YUje;*ne;)Eje;*ne;*oce;",
    "#UIGHUR KIRGHIZthbviibrjqdje;:ne;:oce;!aFARSIthje;%ne;%oce;%pte;!rvthbviibsfje;)utje;)qaje;",
    ")rjqdje;)thje;#BEHbsfje;%utje;%uvje;%qaje;%rjqdje;%thje;#TEHbsfje;%utje;%uvje;%qaje;",
    "%rjqdje;%thje;#THEHbsfje;%qaje;%rjqdje;%thje;#sfbutje;%qaje;#utbsfje;%qaje;#uvbsfje;%utje;",
    "%qaje;#SEENbsfje;%utje;%uvje;%qaje;#SADbutje;%qaje;#DADbsfje;%utje;%uvje;%qaje;#TAHbutje;",
    "%qaje;#ZAHbqaje;#AINbsfje;%qaje;#GHAINbsfje;%qaje;#FEHbsfje;%utje;%uvje;%qaje;%rjqdje;",
    "%thje;#QAFbutje;%qaje;%rjqdje;%thje;#KAFbrjje;%sfje;%utje;%uvje;%LAMje;%qaje;%rjqdje;%thje;",
    "#LAMbsfje;%utje;%uvje;%qaje;%rjqdje;%thje;#qabsfje;%utje;%uvje;%qaje;%rjqdje;%thje;",
    "#xgbsfje;%utje;%uvje;%qaje;%rjqdje;%thje;#HEHbsfje;%qaje;%rjqdje;%thje;#thbsfje;%utje;",
    "%uvje;%qaje;%rjqdje;%thje;#THALbvnrjje;#REHbvnrjje;#rjqdbvnrjje;#SHADDAbDAMMATANje;",
    "%KASRATANje;%FATHAje;%DAMMAje;%KASRAje;%vnrjje;#thbviibREHne;)ZAINne;)qane;)xgne;)rjqdne;",
    ")thne;#BEHbREHne;%ZAINne;%qane;%xgne;%rjqdne;%thne;#TEHbREHne;%ZAINne;%qane;%xgne;%rjqdne;",
    "%thne;#THEHbREHne;%ZAINne;%qane;%xgne;%rjqdne;%thne;#FEHbrjqdne;%thne;#QAFbrjqdne;%thne;",
    "#KAFbrjne;%LAMne;%qane;%rjqdne;%thne;#LAMbqane;%rjqdne;%thne;#qabrjne;%qane;#xgbREHne;",
    "%ZAINne;%qane;%xgne;%rjqdne;%thne;#rjqdbvnrjne;#thbREHne;%ZAINne;%qane;%xgne;%rjqdne;%thne;",
    "%viibsfoce;)utoce;)uvoce;)qaoce;)HEHoce;#BEHbsfoce;%utoce;%uvoce;%qaoce;%HEHoce;#TEHbsfoce;",
    "%utoce;%uvoce;%qaoce;%HEHoce;#THEHbqaoce;#sfbutoce;%qaoce;#utbsfoce;%qaoce;#uvbsfoce;",
    "%qaoce;#SEENbsfoce;%utoce;%uvoce;%qaoce;#SADbutoce;%uvoce;%qaoce;#DADbsfoce;%utoce;%uvoce;",
    "%qaoce;#TAHbutoce;#ZAHbqaoce;#AINbsfoce;%qaoce;#GHAINbsfoce;%qaoce;#FEHbsfoce;%utoce;",
    "%uvoce;%qaoce;#QAFbutoce;%qaoce;#KAFbsfoce;%utoce;%uvoce;%LAMoce;%qaoce;#LAMbsfoce;%utoce;",
    "%uvoce;%qaoce;%HEHoce;#qabsfoce;%utoce;%uvoce;%qaoce;#xgbsfoce;%utoce;%uvoce;%qaoce;",
    "%HEHoce;#HEHbsfoce;%qaoce;%vnrjoce;#thbsfoce;%utoce;%uvoce;%qaoce;%HEHoce;%viibqapte;",
    ")HEHpte;#BEHbqapte;%HEHpte;#TEHbqapte;%HEHpte;#THEHbqapte;%HEHpte;#SEENbqapte;%HEHpte;",
    "#SHEENbqapte;%HEHpte;#KAFbLAMpte;%qapte;#LAMbqapte;#xgbqapte;%HEHpte;#thbqapte;%HEHpte;",
    "#SHADDAbFATHApte;%DAMMApte;%KASRApte;#TAHbrjqdje;%thje;#AINbrjqdje;%thje;#GHAINbrjqdje;",
    "%thje;#SEENbrjqdje;%thje;#SHEENbrjqdje;%thje;#utbrjqdje;%thje;#sfbrjqdje;%thje;#uvbrjqdje;",
    "%thje;#SADbrjqdje;%thje;#DADbrjqdje;%thje;#SHEENbsfje;%utje;%uvje;%qaje;%REHje;#SEENbREHje;",
    "#SADbREHje;#DADbREHje;#TAHbrjqdne;%thne;#AINbrjqdne;%thne;#GHAINbrjqdne;%thne;#SEENbrjqdne;",
    "%thne;#SHEENbrjqdne;%thne;#utbrjqdne;%thne;#sfbrjqdne;%thne;#uvbrjqdne;%thne;#SADbrjqdne;",
    "%thne;#DADbrjqdne;%thne;#SHEENbsfne;%utne;%uvne;%qane;%REHne;#SEENbREHne;#SADbREHne;",
    "#DADbREHne;#SHEENbsfoce;%utoce;%uvoce;%qaoce;#SEENbHEHoce;#SHEENbHEHoce;#TAHbqaoce;",
    "#SEENbsfpte;%utpte;%uvpte;#SHEENbsfpte;%utpte;%uvpte;#TAHbqapte;#ZAHbqapte;#rjbFATHATANne;",
    "&je;ORNATEodpu;!hpu;vprvRAHIMAHU ALLAAH;#RADI ALLAAHU ANH;%ANHAA;%ANHUM;%ANHUMAA;%ANHUNNA;",
    "#SALLALLAAHU ALAYHI WA-AALIH;#ALAYHI AS-SALAAM;#ALAYHIM AS-SALAAM;#ALAYHIMAA AS-SALAAM;",
    "#ALAYHI AS-SALAATU WAS-SALAAM;#QUDDISA SIRRAH;#SALLALLAHU ALAYHI WAAALIHEE WA-SALLAM;",
    "#ALAYHAA AS-SALAAM;#TABAARAKA WA-TAAALAA;#RAHIMAHUM ALLAAH;#TEHbsfbqaoce;%utbsfne;)oce;",
    "(qaoce;%uvbqaoce;%qabsfoce;(utoce;(uvoce;#sfbqabutne;)oce;#utbqabthne;(rjqdne;",
    "#SEENbutbsfoce;%sfbutoce;(rjqdne;%qabutne;)oce;(sfoce;(qane;)oce;#SADbutbutne;)oce;",
    "%qabqane;#SHEENbutbqane;)oce;%sfbthne;%qabuvne;)oce;(qane;)oce;#DADbutbrjqdne;%uvbqane;",
    ")oce;#TAHbqabutne;)oce;(qaoce;(thne;#AINbsfbqane;%qabqane;)oce;(rjqdne;#GHAINbqabqane;",
    "(thne;(rjqdne;#FEHbuvbqane;)oce;#QAFbqabutne;(qane;#LAMbutbqane;(thne;(rjqdne;%sfbsfoce;",
    ")ne;%uvbqane;)oce;%qabutne;)oce;#qabutbsfoce;(qaoce;(thne;%sfbutoce;(qaoce;%uvbsfoce;",
    "(qaoce;;;%sfbuvoce;#HEHbqabsfoce;(qaoce;#xgbutbqaoce;(rjqdne;%sfbqane;)oce;(rjqdne;",
    "%qabthne;(rjqdne;#thbqabqane;)oce;#BEHbuvbthne;#TEHbsfbthne;(rjqdne;%uvbthne;(rjqdne;",
    "%qabthne;(rjqdne;#sfbqabthne;%utbrjqdne;%qabrjqdne;#SEENbuvbrjqdne;#SADbutbthne;",
    "#SHEENbutbthne;#DADbutbthne;#LAMbsfbthne;%qabthne;#thbutbthne;%sfbthne;%qabthne;",
    "#qabqabthne;#QAFbqabthne;#xgbutbthne;#QAFbqabutoce;#LAMbutbqaoce;#AINbqabthne;#KAFbqabthne;",
    "#xgbsfbutoce;#qabuvbthne;#LAMbsfbqaoce;#KAFbqabqane;#LAMbsfbqane;#xgbsfbutne;#sfbutbthne;",
    "#utbsfbthne;#qabsfbthne;#FEHbqabthne;#BEHbutbthne;#KAFbqabqaoce;#AINbsfbqaoce;",
    "#SADbqabqaoce;#SEENbuvbthne;#xgbsfbthne"]),
  (0xfdcf, ["vprvSALAAMUHU ALAYNAA"]),
  (0xfdf0, ["vprvSALLA USED AS KORANICtagje;#QALA USED AS KORANICtagje;#ALLAHje;#AKBARje;",
    "#MOHAMMADje;#SALAMje;#RASOULje;#ALAYHEje;#WASALLAMje;#SALLAje;#SALLALLAHOU ALAYHE WASALLAM;",
    "#JALLAJALALOUHOU;RIALg;vprvBISMILLAH AR-RAHMAN AR-RAHEEM;#SUBHAANAHU WA TAAALAA;",
    "#AZZA WA JALL;VARIATION SELECTOR-1;!SELECTOR-2;!SELECTOR-3;!SELECTOR-4;!SELECTOR-5;",
    "!SELECTOR-6;!SELECTOR-7;!SELECTOR-8;!SELECTOR-9;!SELECTOR-10;!SELECTOR-11;!SELECTOR-12;",
    "!SELECTOR-13;!SELECTOR-14;!SELECTOR-15;!SELECTOR-16;PRESENTATIONeFORobsb;%ujsb;&veta;%wg;",
    "%xy;%rpoq;%svoq;%odolLENTICULARor;%holLENTICULAR BRAKCET;%oiELLIPSIS"]),
  (0xfe20, ["rarvodqh;#hqh;!lqcodqh;$hqh;!rcodqh;#hqh;!CONJOININGrc;!rvodqhm;#hqhm;!qcodqhm;",
    "#hqhm;!rcodqhm;#hqhm;!CONJOININGrcm;!xtTITLOodqh;$hqh;PRESENTATIONeFORobpjpnLEADER;%EMwt;",
    "%ENwt;%uotq;%WAVYuotq;%odpu;%hpu;%odxsor;%hxsor;%odvzymor;%hvzymor;%odokLENTICULARor;",
    "%hokLENTICULARor;%odlsyor;%hlsyor;%odsyor;%hsyor;%odunor;%hunor;%odolunor;%holunor;",
    "SESAMEpn;olSESAMEpn;PRESENTATIONeFORobodoyor;%hoyor;DASHED OVERLINE;CENTRELINE OVERLINE;",
    "WAVY OVERLINE;lWAVY OVERLINE;DASHEDuotq;CENTRELINEuotq;WAVYuotq;dsb;!ujsb;!veta;;!xy;!wg;",
    "!svoq;!rpoq;!EMwt;!odpu;!hpu;!odxsor;!hxsor;!odvzymor;!hvzymor;!reg;!AMPERSAND;!qv;!qbg;",
    "!HYPHEN-MINUS;!plg;!ovg;!uag;;!wcvc;!DOLLARg;!PERCENTg;!COMMERCIAL AT"]),
  (0xfe70, ["vpFATHATANje;!TATWEELbFATHATANi;!DAMMATANje;!usFRAGMENT;!KASRATANje;;!FATHAje;#pte;",
    "!DAMMAje;#pte;!KASRAje;#pte;!SHADDAje;#pte;!SUKUNje;#pte;!avije;#rjbMADDAije;(ne;%viije;",
    "(ne;#WAWbviije;(ne;#rjbvimje;(ne;#thbviije;(ne;(oce;(pte;#rjje;$ne;#BEHje;$ne;$oce;$pte;",
    "#TEH MARBUTAje;%ne;$je;$ne;$oce;$pte;#THEHje;$ne;$oce;$pte;#sfje;$ne;$oce;$pte;#utje;$ne;",
    "$oce;$pte;#uvje;$ne;$oce;$pte;#DALje;$ne;#THALje;$ne;#REHje;$ne;#ZAINje;$ne;#SEENje;$ne;",
    "$oce;$pte;#SHEENje;$ne;$oce;$pte;#SADje;$ne;$oce;$pte;#DADje;$ne;$oce;$pte;#TAHje;$ne;$oce;",
    "$pte;#ZAHje;$ne;$oce;$pte;#AINje;$ne;$oce;$pte;#GHAINje;$ne;$oce;$pte;#FEHje;$ne;$oce;$pte;",
    "#QAFje;$ne;$oce;$pte;#KAFje;$ne;$oce;$pte;#LAMje;$ne;$oce;$pte;#qaje;$ne;$oce;$pte;#xgje;",
    "$ne;$oce;$pte;#HEHje;$ne;$oce;$pte;#WAWje;$ne;#rjqdje;%ne;#thje;$ne;$oce;$pte;",
    "!rvLAMbrjbMADDAije;*ne;(viije;*ne;)mje;*ne;&je;&ne;;;rxWIDTH NO-BREAKzc;;FULLWIDTHrpoq;",
    "!rwoq;!reg;!DOLLARg;!PERCENTg;!AMPERSAND;!ze;!odpu;!hpu;!qv;!qbg;!sb;!HYPHEN-MINUS;!veta;",
    "!vc;!qerx;#pk;#pj;#of;#pd;#ph;#rt;#pi;#pa;#ql;!wg;!xy;!plg;!uag;!ovg;!svoq;!COMMERCIAL AT;",
    "!szcaA;%B;%C;%D;%E;%F;%G;%H;%I;%J;%K;%L;%M;%N;%O;%P;%Q;%R;%S;%T;%U;%V;%W;%X;%Y;%Z;!odoyor;",
    "!wcvc;!hoyor;!osti;!uotq;!rqti;!szdaA;%B;%C;%D;%E;%F;%G;%H;%I;%J;%K;%L;%M;%N;%O;%P;%Q;%R;",
    "%S;%T;%U;%V;%W;%X;%Y;%Z;!odxsor;!obtq;!hxsor;!qc;!odolpu;!holpu;HALFWIDTHujveta;!odunor;",
    "!hunor;!ujsb;!zxompn;#aWO;$dA;%I;%U;%E;%O;%YA;%YU;%YO;%TU;!yyPROLONGED SOUNDoq;!zxaA;$I;$U;",
    "$E;$O;$KA;$KI;$KU;$KE;$KO;$SA;$SI;$SU;$SE;$SO;$TA;$TI;$TU;$TE;$vt;$NA;$NI;$NU;$NE;$NO;$HA;",
    "$HI;$HU;$HE;$HO;$MA;$MI;$MU;$ME;$MO;$YA;$YU;$YO;$RA;$RI;$RU;$RE;$RO;$WA;$N;#VOICED SOUNDoq;",
    "#SEMI-VOICED SOUNDoq;!HANGUL FILLER;#aKIYEOK;$SSANGKIYEOK;$KIYEOK-SIOS;$NIEUN;$NIEUN-CIEUC;",
    "$NIEUN-HIEUH;$TIKEUT;$SSANGTIKEUT;$RIEUL;$RIEUL-KIYEOK;$RIEUL-MIEUM;$RIEUL-PIEUP;",
    "$RIEUL-SIOS;$RIEUL-THIEUTH;$RIEUL-PHIEUPH;$RIEUL-HIEUH;$MIEUM;$PIEUP;$SSANGPIEUP;",
    "$PIEUP-SIOS;$SIOS;$SSANGSIOS;$IEUNG;$CIEUC;$SSANGCIEUC;$CHIEUCH;$KHIEUKH;$THIEUTH;$PHIEUPH;",
    "$HIEUH;;;;$A;$AE;$YA;$YAE;$EO;$E;;;$YEO;$YE;$O;$WA;$WAE;$OE;;;$YO;$U;$WEO;$WE;$WI;$YU;;;",
    "$EU;$YI;$I;;;;FULLWIDTH CENTg;!POUNDg;!xxg;!rc;!BROKENry;!YENg;!WONg;;HALFWIDTH FORMSpyob;",
    "!oaf;!pff;!kf;!oof;!okoy;!olpc"]),
  (0xfff9, ["INTERLINEAR ANNOTATION ANCHOR;#tf;#TERMINATOR;OBJECT REPLACEMENT CHARACTER;",
    "REPLACEMENT CHARACTER"])]

end Tweaks.Text
