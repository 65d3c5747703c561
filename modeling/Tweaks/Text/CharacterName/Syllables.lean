/-!
# Names of letters and syllables of more alphabets

The names that Unicode gives to characters, run by run: each after the other from the first one
of the run.  A mark at the start of a name says how many words it has in common with the one
before it, and small letters stand for common words.
-/

namespace Tweaks.Text

/-- The names of letters and syllables of more alphabets. -/
def syllableNames : List (Nat × List String) := [
  (0x1000, ["MYANMARaKA;#xe;#GA;#GHA;#wd;#CA;#wx;#JA;#JHA;#xa;#NNYA;#zl;#wn;#zm;#wy;#NNA;#TA;",
    "#xr;#DA;#zr;#NA;#PA;#yp;#BA;#BHA;#MA;#YA;#RA;#LA;#WA;#SA;#HA;#LLA;#A;#SHAN A;#I;#II;#U;#UU;",
    "#E;#MON E;#O;#AU;!pvgTALL AA;$AA;$I;$II;$U;$UU;$E;$AI;$MON II;%O;$Ei;!gqn;#pnm;#so;#tc;",
    "#ASAT;!tkgptYA;%RA;%WA;%HA;!aGREAT SA;!qerx;#pk;#pj;#of;#pd;#ph;#rt;#pi;#pa;#ql;!grovb;#vb;",
    "!ohLOCATIVE;#COMPLETED;#AFOREMENTIONED;#GENITIVE;!awf;#SSA;#qoR;$RR;$L;$LL;!pvgqoR;%RR;%L;",
    "%LL;!aMONwd;$JHA;$BBA;$BBE;!tkgMONptNA;&MA;&LA;!aSGAW KARENwf;!pvgSGAW KAREN EU;",
    "!skoqSGAW KAREN HATHI;&KE PHO;!aWESTERN PWO KARENxr;&PWA;!pvgWESTERN PWO KAREN EU;(UE;",
    "!gWESTERN PWO KAREN TONE-1;&TONE-2;&TONE-3;&TONE-4;&TONE-5;!aEASTERN PWO KAREN NNA;&YWA;",
    "&GHWA;!pvgGEBA KAREN I;$KAYAH OE;%U;%EE;!aSHAN KA;$xe;$GA;$CA;$ZA;$xa;$DA;$NA;$yp;$FA;$BA;",
    "$xr;$HA;!tkgSHANptWA;!pvgSHAN AA;%E;&i;%nY;!gSHAN TONE-2;$TONE-3;$TONE-5;$TONE-6;",
    "$COUNCIL TONE-2;%TONE-3;%EMPHATICsk;!aRUMAI PALAUNG FA;!gRUMAI PALAUNG TONE-5;!SHANqerx;",
    "$pk;$pj;$of;$pd;$ph;$rt;$pi;$pa;$ql;!gKHAMTI TONE-1;$TONE-3;!pvgAITON A;%AI;!ohSHANpk;$rp;",
    "GEORGIANcaAN;$BAN;$GAN;$DON;$EN;$VIN;$ZEN;$TAN;$IN;$KAN;$LAS;$MAN;$NAR;$ON;$PAR;$ZHAR;$RAE;",
    "$SAN;$TAR;$UN;$PHAR;$KHAR;$GHAN;$QAR;$zk;$CHIN;$CAN;$JIL;$CIL;$CHAR;$XAN;$JHAN;$HAE;$HE;",
    "$HIE;$WE;$HAR;$HOE;;$YN"]),
  (0x10cd, ["GEORGIANcaAEN;;;!aAN;#BAN;#GAN;#DON;#EN;#VIN;#ZEN;#TAN;#IN;#KAN;#LAS;#MAN;#NAR;#ON;",
    "#PAR;#ZHAR;#RAE;#SAN;#TAR;#UN;#PHAR;#KHAR;#GHAN;#QAR;#zk;#CHIN;#CAN;#JIL;#CIL;#CHAR;#XAN;",
    "#JHAN;#HAE;#HE;#HIE;#WE;#HAR;#HOE;#FI;#YN;#ELIFI;#pzGAN;#AIN;!PARAGRAPHtf;sraGEORGIAN NAR;",
    "GEORGIANaAEN;#HARDg;#LABIALg;HANGUL CHOSEONG KIYEOK;#SSANGKIYEOK;#NIEUN;#TIKEUT;",
    "#SSANGTIKEUT;#RIEUL;#MIEUM;#PIEUP;#SSANGPIEUP;#SIOS;#SSANGSIOS;#IEUNG;#CIEUC;#SSANGCIEUC;",
    "#CHIEUCH;#KHIEUKH;#THIEUTH;#PHIEUPH;#HIEUH;#NIEUN-KIYEOK;#SSANGNIEUN;#NIEUN-TIKEUT;",
    "#NIEUN-PIEUP;#TIKEUT-KIYEOK;#RIEUL-NIEUN;#SSANGRIEUL;#RIEUL-HIEUH;#KAPYEOUNRIEUL;",
    "#MIEUM-PIEUP;#KAPYEOUNMIEUM;#PIEUP-KIYEOK;#PIEUP-NIEUN;#PIEUP-TIKEUT;#PIEUP-SIOS;",
    "#PIEUP-SIOS-KIYEOK;#PIEUP-SIOS-TIKEUT;#PIEUP-SIOS-PIEUP;#PIEUP-SSANGSIOS;#PIEUP-SIOS-CIEUC;",
    "#PIEUP-CIEUC;#PIEUP-CHIEUCH;#PIEUP-THIEUTH;#PIEUP-PHIEUPH;#KAPYEOUNPIEUP;",
    "#KAPYEOUNSSANGPIEUP;#SIOS-KIYEOK;#SIOS-NIEUN;#SIOS-TIKEUT;#SIOS-RIEUL;#SIOS-MIEUM;",
    "#SIOS-PIEUP;#SIOS-PIEUP-KIYEOK;#SIOS-SSANGSIOS;#SIOS-IEUNG;#SIOS-CIEUC;#SIOS-CHIEUCH;",
    "#SIOS-KHIEUKH;#SIOS-THIEUTH;#SIOS-PHIEUPH;#SIOS-HIEUH;#CHITUEUMSIOS;#CHITUEUMSSANGSIOS;",
    "#CEONGCHIEUMSIOS;#CEONGCHIEUMSSANGSIOS;#PANSIOS;#IEUNG-KIYEOK;#IEUNG-TIKEUT;#IEUNG-MIEUM;",
    "#IEUNG-PIEUP;#IEUNG-SIOS;#IEUNG-PANSIOS;#SSANGIEUNG;#IEUNG-CIEUC;#IEUNG-CHIEUCH;",
    "#IEUNG-THIEUTH;#IEUNG-PHIEUPH;#YESIEUNG;#CIEUC-IEUNG;#CHITUEUMCIEUC;#CHITUEUMSSANGCIEUC;",
    "#CEONGCHIEUMCIEUC;#CEONGCHIEUMSSANGCIEUC;#CHIEUCH-KHIEUKH;#CHIEUCH-HIEUH;#CHITUEUMCHIEUCH;",
    "#CEONGCHIEUMCHIEUCH;#PHIEUPH-PIEUP;#KAPYEOUNPHIEUPH;#SSANGHIEUH;#YEORINHIEUH;",
    "#KIYEOK-TIKEUT;#NIEUN-SIOS;#NIEUN-CIEUC;#NIEUN-HIEUH;#TIKEUT-RIEUL;#FILLER;",
    "!JUNGSEONG FILLER;#A;#AE;#YA;#YAE;#EO;#E;#YEO;#YE;#O;#WA;#WAE;#OE;#YO;#U;#WEO;#WE;#WI;#YU;",
    "#EU;#YI;#I;#A-O;#A-U;#YA-O;#YA-YO;#EO-O;#EO-U;#EO-EU;#YEO-O;#YEO-U;#O-EO;#O-E;#O-YE;#O-O;",
    "#O-U;#YO-YA;#YO-YAE;#YO-YEO;#YO-O;#YO-I;#U-A;#U-AE;#U-EO-EU;#U-YE;#U-U;#YU-A;#YU-EO;#YU-E;",
    "#YU-YEO;#YU-YE;#YU-U;#YU-I;#EU-U;#EU-EU;#YI-U;#I-A;#I-YA;#I-O;#I-U;#I-EU;#I-ARAEA;#ARAEA;",
    "#ARAEA-EO;#ARAEA-U;#ARAEA-I;#SSANGARAEA;#A-EU;#YA-U;#YEO-YA;#O-YA;#O-YAE;!JONGSEONG KIYEOK;",
    "#SSANGKIYEOK;#KIYEOK-SIOS;#NIEUN;#NIEUN-CIEUC;#NIEUN-HIEUH;#TIKEUT;#RIEUL;#RIEUL-KIYEOK;",
    "#RIEUL-MIEUM;#RIEUL-PIEUP;#RIEUL-SIOS;#RIEUL-THIEUTH;#RIEUL-PHIEUPH;#RIEUL-HIEUH;#MIEUM;",
    "#PIEUP;#PIEUP-SIOS;#SIOS;#SSANGSIOS;#IEUNG;#CIEUC;#CHIEUCH;#KHIEUKH;#THIEUTH;#PHIEUPH;",
    "#HIEUH;#KIYEOK-RIEUL;#KIYEOK-SIOS-KIYEOK;#NIEUN-KIYEOK;#NIEUN-TIKEUT;#NIEUN-SIOS;",
    "#NIEUN-PANSIOS;#NIEUN-THIEUTH;#TIKEUT-KIYEOK;#TIKEUT-RIEUL;#RIEUL-KIYEOK-SIOS;#RIEUL-NIEUN;",
    "#RIEUL-TIKEUT;#RIEUL-TIKEUT-HIEUH;#SSANGRIEUL;#RIEUL-MIEUM-KIYEOK;#RIEUL-MIEUM-SIOS;",
    "#RIEUL-PIEUP-SIOS;#RIEUL-PIEUP-HIEUH;#RIEUL-KAPYEOUNPIEUP;#RIEUL-SSANGSIOS;#RIEUL-PANSIOS;",
    "#RIEUL-KHIEUKH;#RIEUL-YEORINHIEUH;#MIEUM-KIYEOK;#MIEUM-RIEUL;#MIEUM-PIEUP;#MIEUM-SIOS;",
    "#MIEUM-SSANGSIOS;#MIEUM-PANSIOS;#MIEUM-CHIEUCH;#MIEUM-HIEUH;#KAPYEOUNMIEUM;#PIEUP-RIEUL;",
    "#PIEUP-PHIEUPH;#PIEUP-HIEUH;#KAPYEOUNPIEUP;#SIOS-KIYEOK;#SIOS-TIKEUT;#SIOS-RIEUL;",
    "#SIOS-PIEUP;#PANSIOS;#IEUNG-KIYEOK;#IEUNG-SSANGKIYEOK;#SSANGIEUNG;#IEUNG-KHIEUKH;#YESIEUNG;",
    "#YESIEUNG-SIOS;#YESIEUNG-PANSIOS;#PHIEUPH-PIEUP;#KAPYEOUNPHIEUPH;#HIEUH-NIEUN;#HIEUH-RIEUL;",
    "#HIEUH-MIEUM;#HIEUH-PIEUP;#YEORINHIEUH;#KIYEOK-NIEUN;#KIYEOK-PIEUP;#KIYEOK-CHIEUCH;",
    "#KIYEOK-KHIEUKH;#KIYEOK-HIEUH;#SSANGNIEUN;ETHIOPICvyHA;#HU;#HI;#HAA;#HEE;#HE;#HO;#HOA;#LA;",
    "#LU;#LI;#LAA;#LEE;#LE;#LO;#LWA;#HHA;#HHU;#HHI;#HHAA;#HHEE;#HHE;#HHO;#HHWA;#MA;#MU;#MI;#MAA;",
    "#MEE;#ME;#MO;#MWA;#SZA;#SZU;#SZI;#SZAA;#SZEE;#SZE;#SZO;#SZWA;#RA;#RU;#RI;#RAA;#REE;#RE;#RO;",
    "#RWA;#SA;#SU;#SI;#SAA;#SEE;#SE;#SO;#SWA;#wf;#SHU;#SHI;#SHAA;#SHEE;#SHE;#SHO;#SHWA;#QA;#QU;",
    "#QI;#QAA;#QEE;#QE;#QO;#QOA;#QWA;;#QWI;#QWAA;#QWEE;#QWE;;;#QHA;#QHU;#QHI;#QHAA;#QHEE;#QHE;",
    "#QHO;;#QHWA;;#QHWI;#QHWAA;#QHWEE;#QHWE;;;#BA;#BU;#BI;#BAA;#BEE;#BE;#BO;#BWA;#VA;#VU;#VI;",
    "#VAA;#VEE;#VE;#VO;#VWA;#TA;#TU;#TI;#TAA;#TEE;#TE;#vt;#TWA;#CA;#CU;#CI;#CAA;#CEE;#CE;#CO;",
    "#CWA;#XA;#XU;#XI;#XAA;#XEE;#XE;#XO;#XOA;#XWA;;#XWI;#XWAA;#XWEE;#XWE;;;#NA;#NU;#NI;#NAA;",
    "#NEE;#NE;#NO;#NWA;#xa;#NYU;#NYI;#NYAA;#NYEE;#NYE;#NYO;#NYWA;#ufA;$U;$I;$AA;$EE;$E;$O;$WA;",
    "#KA;#KU;#KI;#KAA;#KEE;#KE;#KO;#KOA;#KWA;;#KWI;#KWAA;#KWEE;#KWE;;;#KXA;#KXU;#KXI;#KXAA;",
    "#KXEE;#KXE;#KXO;;#KXWA;;#KXWI;#KXWAA;#KXWEE;#KXWE;;;#WA;#WU;#WI;#WAA;#WEE;#WE;#WO;#WOA;",
    "#PHARYNGEAL A;$U;$I;$AA;$EE;$E;$O;;#ZA;#ZU;#ZI;#ZAA;#ZEE;#ZE;#ZO;#ZWA;#ZHA;#ZHU;#ZHI;#ZHAA;",
    "#ZHEE;#ZHE;#ZHO;#ZHWA;#YA;#YU;#YI;#YAA;#YEE;#YE;#YO;#YOA;#DA;#DU;#DI;#DAA;#DEE;#DE;#DO;",
    "#DWA;#zm;#DDU;#DDI;#DDAA;#DDEE;#DDE;#DDO;#DDWA;#JA;#JU;#JI;#JAA;#JEE;#JE;#JO;#JWA;#GA;#GU;",
    "#GI;#GAA;#GEE;#GE;#GO;#GOA;#GWA;;#GWI;#GWAA;#GWEE;#GWE;;;#GGA;#GGU;#GGI;#GGAA;#GGEE;#GGE;",
    "#GGO;#GGWAA;#xr;#THU;#THI;#THAA;#THEE;#THE;#THO;#THWA;#wx;#CHU;#CHI;#CHAA;#CHEE;#CHE;#CHO;",
    "#CHWA;#yp;#PHU;#PHI;#PHAA;#PHEE;#PHE;#PHO;#PHWA;#TSA;#TSU;#TSI;#TSAA;#TSEE;#TSE;#TSO;#TSWA;",
    "#TZA;#TZU;#TZI;#TZAA;#TZEE;#TZE;#TZO;#TZOA;#FA;#FU;#FI;#FAA;#FEE;#FE;#FO;#FWA;#PA;#PU;#PI;",
    "#PAA;#PEE;#PE;#PO;#PWA;#RYA;#MYA;#FYA;;;!raGEMINATIONojpvLENGTHoq;#pvLENGTHoq;",
    "#GEMINATIONoq;!vboq;!WORDSPACE;!veta;!sb;!xy;!wg;!PREFACEwg;!svoq;!PARAGRAPHtf;!qepk;#pj;",
    "#of;#pd;#ph;#rt;#pi;#pa;#ql;!revo;#tb;#xc;#FORTY;#wb;#SIXTY;#sw;#EIGHTY;#tn;#on;#voop;;;;",
    "!vySEBATBEIT MWA;#MWI;#MWEE;#MWE;#SEBATBEIT BWA;#BWI;#BWEE;#BWE;#SEBATBEIT FWA;#FWI;#FWEE;",
    "#FWE;#SEBATBEIT PWA;#PWI;#PWEE;#PWE;!TONALoqYIZET;$DERET;$RIKRIK;$tdRIKRIK;$DIFAT;$KENAT;",
    "$CHIRET;$HIDET;$DERET-HIDET;$KURT"]),
  (0x13a0, ["CHEROKEEaA;#E;#I;#O;#U;#V;#GA;#KA;#GE;#GI;#GO;#GU;#GV;#HA;#HE;#HI;#HO;#HU;#HV;#LA;",
    "#LE;#LI;#LO;#LU;#LV;#MA;#ME;#MI;#MO;#MU;#NA;#HNA;#NAH;#NE;#NI;#NO;#NU;#NV;#QUA;#QUE;#QUI;",
    "#QUO;#QUU;#QUV;#SA;#S;#SE;#SI;#SO;#SU;#SV;#DA;#TA;#DE;#TE;#DI;#TI;#DO;#DU;#DV;#DLA;#TLA;",
    "#TLE;#TLI;#TLO;#TLU;#TLV;#TSA;#TSE;#TSI;#TSO;#TSU;#TSV;#WA;#WE;#WI;#WO;#WU;#WV;#YA;#YE;#YI;",
    "#YO;#YU;#YV;#MV;;;!daYE;$YI;$YO;$YU;$YV;$MV;;;CANADIAN SYLLABICS HYPHEN;#E;#AAI;#I;#II;#O;",
    "#OO;#Y-CREE OO;#CARRIER EE;$I;#A;#AA;#WE;#ouWE;#WI;#ouWI;#WII;#ouWII;#WO;#ouWO;#WOO;#ouWOO;",
    "#NASKAPI WOO;#WA;#ouWA;#WAA;#ouWAA;#NASKAPI WAA;#AI;#Y-CREE W;#ufta;#nqm;$rq;$umqhrm;",
    "$TOPqhrm;$hqhrm;$rm;$lqm;%tdobSTROKES;$ompn;$tdoiog;$qb;$qjyh;#EN;#IN;#ON;#AN;#PE;#PAAI;",
    "#PI;#PII;#PO;#POO;#Y-CREE POO;#CARRIER HEE;$HI;#PA;#PAA;#PWE;#ouPWE;#PWI;#ouPWI;#PWII;",
    "#ouPWII;#PWO;#ouPWO;#PWOO;#ouPWOO;#PWA;#ouPWA;#PWAA;#ouPWAA;#Y-CREE PWAA;#P;#ouP;",
    "#CARRIER H;#TE;#TAAI;#TI;#TII;#vt;#TOO;#Y-CREE TOO;#CARRIER DEE;$DI;#TA;#TAA;#TWE;#ouTWE;",
    "#TWI;#ouTWI;#TWII;#ouTWII;#pj;#oupj;#TWOO;#ouTWOO;#TWA;#ouTWA;#TWAA;#ouTWAA;#NASKAPI TWAA;",
    "#T;#TTE;#TTI;#TTO;#zl;#KE;#KAAI;#KI;#KII;#KO;#KOO;#Y-CREE KOO;#KA;#KAA;#KWE;#ouKWE;#KWI;",
    "#ouKWI;#KWII;#ouKWII;#KWO;#ouKWO;#KWOO;#ouKWOO;#KWA;#ouKWA;#KWAA;#ouKWAA;#NASKAPI KWAA;#K;",
    "#KW;#SOUTH-SLAVEY KEH;$KIH;$KOH;$KAH;#CE;#CAAI;#CI;#CII;#CO;#COO;#Y-CREE COO;#CA;#CAA;#CWE;",
    "#ouCWE;#CWI;#ouCWI;#CWII;#ouCWII;#CWO;#ouCWO;#CWOO;#ouCWOO;#CWA;#ouCWA;#CWAA;#ouCWAA;",
    "#NASKAPI CWAA;#C;#SAYISI TH;#ME;#MAAI;#MI;#MII;#MO;#MOO;#Y-CREE MOO;#MA;#MAA;#MWE;#ouMWE;",
    "#MWI;#ouMWI;#MWII;#ouMWII;#MWO;#ouMWO;#MWOO;#ouMWOO;#MWA;#ouMWA;#MWAA;#ouMWAA;",
    "#NASKAPI MWAA;#M;#ouM;#MH;#ATHAPASCAN M;#SAYISI M;#NE;#NAAI;#NI;#NII;#NO;#NOO;#Y-CREE NOO;",
    "#NA;#NAA;#NWE;#ouNWE;#NWA;#ouNWA;#NWAA;#ouNWAA;#NASKAPI NWAA;#N;#CARRIER NG;#NH;#LE;#LAAI;",
    "#LI;#LII;#LO;#LOO;#Y-CREE LOO;#LA;#LAA;#LWE;#ouLWE;#LWI;#ouLWI;#LWII;#ouLWII;#LWO;#ouLWO;",
    "#LWOO;#ouLWOO;#LWA;#ouLWA;#LWAA;#ouLWAA;#L;#ouL;#ptL;#SE;#SAAI;#SI;#SII;#SO;#SOO;",
    "#Y-CREE SOO;#SA;#SAA;#SWE;#ouSWE;#SWI;#ouSWI;#SWII;#ouSWII;#SWO;#ouSWO;#SWOO;#ouSWOO;#SWA;",
    "#ouSWA;#SWAA;#ouSWAA;#NASKAPI SWAA;#S;#ATHAPASCAN S;#SW;#BLACKFOOT S;#MOOSE-CREE SK;",
    "#NASKAPI SKW;$S-W;$SPWA;$STWA;$SKWA;$SCWA;#SHE;#SHI;#SHII;#SHO;#SHOO;#wf;#SHAA;#SHWE;",
    "#ouSHWE;#SHWI;#ouSHWI;#SHWII;#ouSHWII;#SHWO;#ouSHWO;#SHWOO;#ouSHWOO;#SHWA;#ouSHWA;#SHWAA;",
    "#ouSHWAA;#SH;#YE;#YAAI;#YI;#YII;#YO;#YOO;#Y-CREE YOO;#YA;#YAA;#YWE;#ouYWE;#YWI;#ouYWI;",
    "#YWII;#ouYWII;#YWO;#ouYWO;#YWOO;#ouYWOO;#YWA;#ouYWA;#YWAA;#ouYWAA;#NASKAPI YWAA;#Y;",
    "#BIBLE-CREE Y;#ouY;#SAYISI YI;#RE;#R-CREE RE;#ouLE;#RAAI;#RI;#RII;#RO;#ROO;#ouLO;#RA;#RAA;",
    "#ouLA;#RWAA;#ouRWAA;#R;#ouR;#ptR;#FE;#FAAI;#FI;#FII;#FO;#FOO;#FA;#FAA;#FWAA;#ouFWAA;#F;",
    "#THE;#N-CREE THE;#THI;#N-CREE THI;#THII;#N-CREE THII;#THO;#THOO;#xr;#THAA;#THWAA;#ouTHWAA;",
    "#TH;#TTHE;#TTHI;#TTHO;#wn;#TTH;#TYE;#TYI;#TYO;#TYA;#NUNAVIK HE;$HI;$HII;$HO;$HOO;$HA;$HAA;",
    "$H;#NUNAVUT H;#HK;#QAAI;#QI;#QII;#QO;#QOO;#QA;#QAA;#Q;#TLHE;#TLHI;#TLHO;#TLHA;#ouRE;$RI;",
    "$RO;$RA;#NGAAI;#NGI;#NGII;#NGO;#NGOO;#wd;#NGAA;#NG;#NNG;#SAYISI SHE;$SHI;$SHO;$wf;",
    "#WOODS-CREE THE;$THI;$THO;$xr;$TH;#LHI;#LHII;#LHO;#LHOO;#LHA;#LHAA;#LH;#TH-CREE THE;$THI;",
    "$THII;$THO;$THOO;$xr;$THAA;$TH;#AIVILIK B;#BLACKFOOT E;$I;$O;$A;$WE;$WI;$WO;$WA;$NE;$NI;",
    "$NO;$NA;$KE;$KI;$KO;$KA;#SAYISI HE;$HI;$HO;$HA;#CARRIER GHU;$GHO;$GHE;$GHEE;$GHI;$GHA;$RU;",
    "$RO;$RE;$REE;$RI;$RA;$WU;$WO;$WE;$WEE;$WI;$WA;$HWU;$HWO;$HWE;$HWEE;$HWI;$HWA;$THU;$THO;",
    "$THE;$THEE;$THI;$xr;$TTU;$TTO;$TTE;$TTEE;$TTI;$zl;$PU;$PO;$PE;$PEE;$PI;$PA;$P;$GU;$GO;$GE;",
    "$GEE;$GI;$GA;$KHU;$KHO;$KHE;$KHEE;$KHI;$xe;$KKU;$KKO;$KKE;$KKEE;$KKI;$KKA;$KK;$NU;$NO;$NE;",
    "$NEE;$NI;$NA;$MU;$MO;$ME;$MEE;$MI;$MA;$YU;$YO;$YE;$YEE;$YI;$YA;$JU;#SAYISI JU;#CARRIER JO;",
    "$JE;$JEE;$JI;#SAYISI JI;#CARRIER JA;$JJU;$JJO;$JJE;$JJEE;$JJI;$JJA;$LU;$LO;$LE;$LEE;$LI;",
    "$LA;$DLU;$DLO;$DLE;$DLEE;$DLI;$DLA;$LHU;$LHO;$LHE;$LHEE;$LHI;$LHA;$TLHU;$TLHO;$TLHE;$TLHEE;",
    "$TLHI;$TLHA;$TLU;$TLO;$TLE;$TLEE;$TLI;$TLA;$ZU;$ZO;$ZE;$ZEE;$ZI;$ZA;$Z;$ocZ;$DZU;$DZO;$DZE;",
    "$DZEE;$DZI;$DZA;$SU;$SO;$SE;$SEE;$SI;$SA;$SHU;$SHO;$SHE;$SHEE;$SHI;$wf;$SH;$TSU;$TSO;$TSE;",
    "$TSEE;$TSI;$TSA;$CHU;$CHO;$CHE;$CHEE;$CHI;$wx;$TTSU;$TTSO;$TTSE;$TTSEE;$TTSI;$TTSA;#CHIg;",
    "#veta;#QAI;#NGAI;#NNGI;#NNGII;#NNGO;#NNGOO;#NNGA;#NNGAA;#WOODS-CREE THWEE;$THWI;$THWII;",
    "$THWO;$THWOO;$THWA;$THWAA;$nTH;#BLACKFOOT W;OGHAMzcoq;!aBEITH;#LUIS;#FEARN;#SAIL;#NION;",
    "#UATH;#DAIR;#TINNE;#COLL;#CEIRT;#MUIN;#GORT;#NGEADAL;#STRAIF;#RUIS;#AILM;#ONN;#UR;#EADHADH;",
    "#IODHADH;#EABHADH;#OR;#UILLEANN;#IFIN;#EAMHANCHOLL;#PEITH;!FEATHERoq;!pgFEATHERoq;;;;",
    "RUNICaFEHU FEOH FE F;#V;#URUZ UR U;#YR;#Y;#W;#THURISAZ THURS THORN;#ETH;#ANSUZ A;#OS O;",
    "#AC A;#AESC;#LONG-BRANCH-OSS O;#SHORT-TWIG-OSS O;#O;#OE;#ON;#RAIDO RAD REID R;#KAUNA;#CEN;",
    "#KAUN K;#G;#ENG;#GEBO GYFU G;#GAR;#WUNJO WYNN W;#HAGLAZ H;#HAEGL H;#LONG-BRANCH-HAGALL H;",
    "#SHORT-TWIG-HAGALL H;#NAUDIZ NYD NAUD N;#SHORT-TWIG-NAUD N;#DOTTED-N;#ISAZ IS ISS I;#E;",
    "#JERAN J;#GER;#LONG-BRANCH-AR AE;#SHORT-TWIG-AR A;#IWAZ EOH;#PERTHO PEORTH P;#ALGIZ EOLHX;",
    "#SOWILO S;#SIGEL LONG-BRANCH-SOL S;#SHORT-TWIG-SOL S;#C;#Z;#TIWAZ TIR TYR T;",
    "#SHORT-TWIG-TYR T;#D;#BERKANAN BEORC BJARKAN B;#SHORT-TWIG-BJARKAN B;#DOTTED-P;#OPEN-P;",
    "#EHWAZ EH E;#MANNAZ MAN M;#LONG-BRANCH-MADR M;#SHORT-TWIG-MADR M;#LAUKAZ LAGU LOGR L;",
    "#DOTTED-L;#INGWAZ;#ING;#DAGAZ DAEG D;#OTHALAN ETHEL O;#EAR;#IOR;#CWEORTH;#CALC;#CEALC;",
    "#STAN;#LONG-BRANCH-YR;#SHORT-TWIG-YR;#ICELANDIC-YR;#Q;#X;!qrps;!yips;!ttps;!ARLAUGoh;",
    "!TVIMADURoh;!BELGTHORoh;!aK;#SH;#OO;#FRANKS CASKET OS;%IS;%EH;%AC;%AESC"]),
  (0x1700, ["TAGALOGaA;#I;#U;#KA;#GA;#wd;#TA;#DA;#NA;#PA;#BA;#MA;#YA;#RA;#LA;#WA;#SA;#HA;!pvgI;",
    "$U;!gtc;#PAMUDPOD"]),
  (0x171f, ["TAGALOGawoRA;HANUNOOaA;#I;#U;#KA;#GA;#wd;#TA;#DA;#NA;#PA;#BA;#MA;#YA;#RA;#LA;#WA;",
    "#SA;#HA;!pvgI;$U;!gPAMUDPOD;PHILIPPINEqrps;!lps"]),
  (0x1740, ["BUHIDaA;#I;#U;#KA;#GA;#wd;#TA;#DA;#NA;#PA;#BA;#MA;#YA;#RA;#LA;#WA;#SA;#HA;!pvgI;$U"]),
  (0x1760, ["TAGBANWAaA;#I;#U;#KA;#GA;#wd;#TA;#DA;#NA;#PA;#BA;#MA;#YA;;#LA;#WA;#SA;;!pvgI;$U"]),
  (0x1780, ["KHMERaKA;#xe;#KO;#KHO;#NGO;#CA;#wx;#CO;#CHO;#NYO;#DA;#wn;#DO;#TTHO;#NNO;#TA;#xr;",
    "#vt;#THO;#NO;#BA;#yp;#PO;#PHO;#MO;#YO;#RO;#LO;#VO;#wf;#SSO;#SA;#HA;#LA;#QA;!zhpvQAQ;$QAA;",
    "$QI;$QII;$QU;$QUK;$QUU;$QUUV;$RY;$RYY;$LY;$LYY;$QE;$QAI;$QOO TYPEpk;&pj;$QAU;",
    "!pvINHERENT AQ;$AA;#gAA;$I;$II;$Y;$YY;$U;$UU;$UA;$OE;$YA;$IE;$E;$AE;$AI;$OO;$AU;!gNIKAHIT;",
    "#REAHMUK;#YUUKALEAPINTU;#MUUSIKATOAN;#TRIISAP;#BANTOC;#ROBAT;#TOANDAKHIAT;#KAKABAT;#AHSDA;",
    "#SAMYOK SANNYA;#VIRIAM;#COENG;#BATHAMASAT;#KHAN;#BARIYOOSAN;#CAMNUC PII KUUH;#LEK TOO;",
    "#BEYYAL;#PHNAEK MUAN;#KOOMUUT;!CURRENCYohRIEL;!gAVAKRAHASANYA;#ATTHACAN;;;!qerx;#pk;#pj;",
    "#of;#pd;#ph;#rt;#pi;#pa;#ql"]),
  (0x17f0, ["KHMERohLEK ATTAK SON;%MUOY;%PII;%BEI;%BUON;%PRAM;%PRAM-MUOY;%PRAM-PII;%PRAM-BEI;",
    "%PRAM-BUON"]),
  (0x1800, ["MONGOLIAN BIRGA;!ELLIPSIS;!sb;!veta;!wg;!pdqy;!TODO SOFT HYPHEN;",
    "!SIBEvyBOUNDARY MARKER;!MANCHUsb;#veta;!NIRUGU;!FREE VARIATION SELECTORpk;%pj;%of;!pvtf;",
    "!FREE VARIATION SELECTORpd;!qerx;#pk;#pj;#of;#pd;#ph;#rt;#pi;#pa;#ql"]),
  (0x1820, ["MONGOLIANaA;#E;#I;#O;#U;#OE;#UE;#EE;#NA;#ANG;#BA;#PA;#QA;#GA;#MA;#LA;#SA;#wf;#TA;",
    "#DA;#wx;#JA;#YA;#RA;#WA;#FA;#KA;#xe;#TSA;#ZA;#HAA;#ZRA;#LHA;#ZHI;#CHI;#TODOsjpvg;$E;$I;$O;",
    "$U;$OE;$UE;$ANG;$BA;$PA;$QA;$GA;$MA;$TA;$DA;$wx;$JA;$TSA;$YA;$WA;$KA;$GAA;$HAA;$JIA;$NIA;",
    "$DZA;#SIBE E;$I;$IY;$UE;$U;$ANG;$KA;$GA;$HA;$PA;$wf;$TA;$DA;$JA;$FA;$GAA;$HAA;$TSA;$ZA;",
    "$RAA;$wx;$ZHA;#MANCHU I;$KA;$RA;$FA;$ZHA;#wxbpjqy"]),
  (0x1880, ["MONGOLIANaALI GALIqnpk;%sopk;%DAMARU;%UBADAMA;%poUBADAMA;%BALUDA;%ofBALUDA;%A;%I;",
    "%KA;%wd;%CA;%zl;%wn;%zm;%NNA;%TA;%DA;%PA;%yp;%SSA;%ZHA;%ZA;%AH;#TODO ALI GALI TA;&ZHA;",
    "#MANCHU ALI GALI GHA;&wd;&CA;&JHA;&zl;&wy;&TA;&zr;&SSA;&CYA;&ZHA;&ZA;#ALI GALIqhU;&YA;",
    "#MANCHU ALI GALI BHA;#ALI GALI DAGALGA;#MANCHU ALI GALI LHA"]),
  (0x18b0, ["CANADIAN SYLLABICS OY;#AY;#AAY;#WAY;#POY;#PAY;#PWOY;#TAY;#KAY;#KWAY;#MAY;#NOY;#NAY;",
    "#LAY;#SOY;#SAY;#SHOY;#SHAY;#SHWOY;#YOY;#YAY;#RAY;#NWI;#OJIBWAY NWI;#NWII;#OJIBWAY NWII;",
    "#NWO;#OJIBWAY NWO;#NWOO;#OJIBWAY NWOO;#RWEE;#RWI;#RWII;#RWO;#RWOO;#RWA;#OJIBWAY P;$T;$K;$C;",
    "$M;$N;$S;$SH;#EASTERN W;#WESTERN W;#ndrm;$vwpn;#R-CREE RWE;#ouLOO;$LAA;#THWE;#THWA;#TTHWE;",
    "#TTHOO;#TTHAA;#TLHWE;#TLHOO;#SAYISI SHWE;$SHOO;$HOO;#CARRIER GWU;$DENE GEE;$GAA;$GWA;",
    "#SAYISI JUU;#CARRIER JWA;#BEAVER DENE L;%R;#CARRIER DENTAL S"]),
  (0x1900, ["LIMBU VOWEL-CARRIERa;!aKA;#xe;#GA;#GHA;#wd;#CA;#wx;#JA;#JHA;#YAN;#TA;#xr;#DA;#zr;",
    "#NA;#PA;#yp;#BA;#BHA;#MA;#YA;#RA;#LA;#WA;#wf;#SSA;#SA;#HA;#GYAN;#TRA;;!pvgA;$I;$U;$EE;$AI;",
    "$OO;$AU;$E;$O;!SUBJOINEDaYA;$RA;$WA"]),
  (0x1930, ["LIMBUdaKA;$wd;$qn;$TA;$NA;$PA;$MA;$RA;$LA;!gMUKPHRENG;#KEMPHRENG;#SA-I"]),
  (0x1940, ["LIMBUgLOO;;;;!rpoq;!svoq;!qerx;#pk;#pj;#of;#pd;#ph;#rt;#pi;#pa;#ql;TAI LEaKA;$XA;",
    "$wd;$TSA;$SA;$YA;$TA;$xr;$LA;$PA;$yp;$MA;$FA;$VA;$HA;$QA;$xe;$TSHA;$NA;$A;$I;$EE;$EH;$U;",
    "$OO;$O;$UE;$E;$AUE;$AI;;;$TONE-2;$TONE-3;$TONE-4;$TONE-5;$TONE-6"]),
  (0x1980, ["NEW TAI LUEastQA;%uoQA;%stKA;&XA;&wd;%uoKA;&XA;&wd;%stTSA;&SA;&YA;%uoTSA;&SA;&YA;",
    "%stTA;&xr;&NA;%uoTA;&xr;&NA;%stPA;&yp;&MA;%uoPA;&yp;&MA;%stFA;&VA;&LA;%uoFA;&VA;&LA;%stHA;",
    "&DA;&BA;%uoHA;&DA;&BA;%stKVA;&XVA;%uoKVA;&XVA;%stSUA;%uoSUA"]),
  (0x19b0, ["NEW TAI LUEpvgpvSHORTENER;&AA;&II;&U;&UU;&E;&AE;&O;&OA;&UE;&AY;&AAY;&UY;&OY;&OAY;",
    "&UEY;&IY;$anV;&NG;&N;&M;&K;&D;&B;$skMARK-1;%MARK-2"]),
  (0x19d0, ["NEW TAI LUEqerx;%pk;%pj;%of;%pd;%ph;%rt;%pi;%pa;%ql;$THAMqepk;;;;$gLAE;%LAEV;",
    "KHMERohPATHAMASAT;#MUOY KOET;#PII KOET;#BEI KOET;#BUON KOET;#PRAM KOET;#PRAM-MUOY KOET;",
    "#PRAM-PII KOET;#PRAM-BEI KOET;#PRAM-BUON KOET;#DAP KOET;#DAP-MUOY KOET;#DAP-PII KOET;",
    "#DAP-BEI KOET;#DAP-BUON KOET;#DAP-PRAM KOET;#TUTEYASAT;#MUOY ROC;#PII ROC;#BEI ROC;",
    "#BUON ROC;#PRAM ROC;#PRAM-MUOY ROC;#PRAM-PII ROC;#PRAM-BEI ROC;#PRAM-BUON ROC;#DAP ROC;",
    "#DAP-MUOY ROC;#DAP-PII ROC;#DAP-BEI ROC;#DAP-BUON ROC;#DAP-PRAM ROC;BUGINESEaKA;#GA;#wd;",
    "#NGKA;#PA;#BA;#MA;#MPA;#TA;#DA;#NA;#NRA;#CA;#JA;#xa;#NYCA;#YA;#RA;#LA;#VA;#SA;#A;#HA;!pvgI;",
    "$U;$E;$O;$AE;;;!PALLAWA;!ENDwhvb;TAI THAMastKA;%xe;%KXA;$uoKA;%KXA;%xe;$wd;$stCA;%wx;$uoCA;",
    "%SA;%wx;$xa;$RATA;$stRATHA;$DA;$uoRATHA;$RANA;$stTA;%xr;$uoTA;%xr;$NA;$BA;$stPA;%yp;%FA;",
    "$uoPA;%FA;%yp;$MA;$uoYA;$stYA;$RA;$RUE;$LA;$LUE;$WA;$stwf;%SSA;%SA;%HA;$LLA;$A;$uoHA;$I;",
    "$II;$U;$UU;$EE;$OO;$LAE;$GREAT SA;#tkgptRA;&LA;%LA TANG LAI;#gMAI KANG LAI;#tkgnwd;%uoPA;",
    "%stRATHA ORuoPA;%MA;%BA;%SA;;#gSAKOT;#pvgA;%MAI SAT;%AA;%TALL AA;%I;%II;%UE;%UUE;%U;%UU;%O;",
    "%OAm;%OY;%E;%AE;%OO;%AI;%THAM AI;%OAi;#gMAI KANG;$TONE-1;$TONE-2;$KHUEN TONE-3;%TONE-4;",
    "%TONE-5;$RA HAAM;$MAI SAM;$KHUEN-LUE KARAN;;;#rawrpn;#HORAqerx;%pk;%pj;%of;%pd;%ph;%rt;%pi;",
    "%pa;%ql"]),
  (0x1a90, ["TAI THAM THAMqerx;%pk;%pj;%of;%pd;%ph;%rt;%pi;%pa;%ql"]),
  (0x1aa0, ["TAI THAMgWIANG;$WIANGWAAK;$SAWAN;$KEOW;$HOY;$DOKMAI;$pgqiRANA;$MAI YAMOK;$KAAN;",
    "$KAANKUU;$SATKAAN;$SATKAANKUU;$HANG;$CAANG;;;raDOUBLEDosti;!DIAERESIS-RING;!INFINITY;!oof;",
    "!shpn;!X-Xm;!WIGGLYtqm;!seoqm;!lseoqm;!pyCENTRALIZATIONogm;!STRONG CENTRALIZATIONogm;",
    "!PARENTHESESi;!lPARENTHESESi;!PARENTHESESm;#vh;!szdaWm;%pzWm;!odpuiod;!hpuih;!odpumod;",
    "!hpumh;!oyBRACKETSi;!regi;!polARCHi;!qbgi;!lqbgi;%m;!shqmti;!szdawzG;&R;&T"]),
  (0x1b00, ["BALINESEgULU RICEM;$CANDRA;#CECEK;#SURANG;#BISAH;!aAKARA;$TEDUNG;#IKARA;$TEDUNG;",
    "#UKARA;$TEDUNG;#RA REPA;%TEDUNG;#LA LENGA;%TEDUNG;#EKARA;#AIKARA;#OKARA;$TEDUNG;#KA;",
    "$MAHAPRANA;#GA;$GORA;#wd;#CA;$LACA;#JA;$JERA;#xa;#TA LATIK;$MURDA MAHAPRANA;",
    "#DA MURDA ALPAPRANA;%MAHAPRANA;#NA RAMBAT;#TA;$TAWA;#DA;$MADU;#NA;#PA;$KAPAL;#BA;$KEMBANG;",
    "#MA;#YA;#RA;#LA;#WA;#SA SAGA;$SAPA;$;#HA;!gREREKAN;!pvgTEDUNG;$ULU;%SARI;$SUKU;%ILUT;",
    "$RA REPA;&TEDUNG;$LA LENGA;&TEDUNG;$TALING;%REPA;%TEDUNG;%REPA TEDUNG;$PEPET;%TEDUNG;",
    "!ADEG ADEG;!aKAF SASAK;#KHOT SASAK;#TZIR SASAK;#EF SASAK;#VE SASAK;#ZAL SASAK;",
    "#ASYURA SASAK;#woJNYA;;;;!qerx;#pk;#pj;#of;#pd;#ph;#rt;#pi;#pa;#ql;!PANTI;!PAMADA;!WINDU;",
    "!CARIK PAMUNGKAH;#SIKI;#PAREREN;!PAMENENG;!MUSICALohDONG;$DENG;$DUNG;$DANG;%SURANG;$DING;",
    "$DAENG;$DEUNG;$DAING;$DANG GEDE;$raTEGEH;%ENDEP;%KEMPUL;%KEMPLI;%JEGOGAN;%KEMPULbJEGOGAN;",
    "%KEMPLIbJEGOGAN;%BENDE;%GONG;$RIGHT-HANDseDUG;&DAG;%tyTUK;&TAK;$LEFT-HANDsePANG;&PUNG;",
    "%tyPLAK;&PLUK;%sePING;!PANTI LANTANG;!PAMADA LANTANG;;SUNDANESEgPANYECEK;#PANGLAYAR;",
    "#PANGWISAD;!aA;#I;#U;#AE;#O;#E;#EU;#KA;#QA;#GA;#wd;#CA;#JA;#ZA;#xa;#TA;#DA;#NA;#PA;#FA;#VA;",
    "#BA;#MA;#YA;#RA;#LA;#WA;#SA;#XA;#HA;!tkgPAMINGKAL;$PANYAKRA;$PANYIKU;!pvgPANGHULU;$PANYUKU;",
    "$PANAELAENG;$PANOLONG;$PAMEPET;$PANEULEUNG;!gPAMAAEH;#tc;!tkgPASANGAN MA;%WA;!axe;#SYA;",
    "!qerx;#pk;#pj;#of;#pd;#ph;#rt;#pi;#pa;#ql;!wp;!aREU;#LEU;#BHA;#nK;$M;BATAKaA;#xoA;#HA;",
    "#xoHA;#MANDAILING HA;#BA;#KARO BA;#PA;#xoPA;#NA;#MANDAILING NA;#WA;#xoWA;#PAKPAK WA;#GA;",
    "#xoGA;#JA;#DA;#RA;#xoRA;#MA;#xoMA;#SOUTHERN TA;#NORTHERN TA;#SA;#xoSA;#MANDAILING SA;#YA;",
    "#xoYA;#wd;#LA;#xoLA;#xa;#CA;#NDA;#MBA;#I;#U;!gTOMPI;!pvgE;$PAKPAK E;$EE;$I;$KARO I;$O;",
    "$KARO O;$U;%FORxoSA;!tkgNG;$H;!PANGOLAT;!PANONGONAN"]),
  (0x1bfc, ["BATAKohBINDU NA METEK;$PINARBORAS;$JUDUL;$PANGOLAT;LEPCHAaKA;#KLA;#xe;#GA;#GLA;#wd;",
    "#CA;#wx;#JA;#xa;#TA;#xr;#DA;#NA;#PA;#PLA;#yp;#FA;#FLA;#BA;#BLA;#MA;#MLA;#TSA;#TSHA;#DZA;",
    "#YA;#RA;#LA;#HA;#HLA;#VA;#SA;#wf;#WA;#A;!SUBJOINEDaYA;$RA;!pvgAA;$I;$O;$OO;$U;$UU;$E;!tkgK;",
    "$M;$L;$N;$P;$R;$T;$NYIN-DO;$KANG;!gRAN;#yb;;;;!psTA-ROL;#NYET THYOOM TA-ROL;#CER-WA;",
    "#TSHOOK CER-WA;$;!qerx;#pk;#pj;#of;#pd;#ph;#rt;#pi;#pa;#ql;;;;!azl;#wn;#zm;OL CHIKIqerx;",
    "$pk;$pj;$of;$pd;$ph;$rt;$pi;$pa;$ql;#aLA;$AT;$AG;$ANG;$AL;$LAA;$AAK;$AAJ;$AAM;$AAW;$LI;$IS;",
    "$IH;$INY;$IR;$LU;$UC;$UD;$UNN;$UY;$LE;$EP;$EDD;$EN;$ERR;$LO;$OTT;$OB;$OV;$OH;#MU TTUDDAG;",
    "#GAAHLAA TTUDDAAG;#MU-GAAHLAA TTUDDAAG;#RELAA;#PHAARKAA;#AHAD;#psMUCAAD;$lMUCAAD;",
    "xtdaROUNDED VE;$LONG-LEGGED DE;$NARROW O;$WIDE ES;$TALL TE;$THREE-LEGGED TE;$TALL HARDg;",
    "%YAT;$UNBLENDED UK"]),
  (0x1c90, ["GEORGIAN MTAVRULIcaAN;%BAN;%GAN;%DON;%EN;%VIN;%ZEN;%TAN;%IN;%KAN;%LAS;%MAN;%NAR;",
    "%ON;%PAR;%ZHAR;%RAE;%SAN;%TAR;%UN;%PHAR;%KHAR;%GHAN;%QAR;%zk;%CHIN;%CAN;%JIL;%CIL;%CHAR;",
    "%XAN;%JHAN;%HAE;%HE;%HIE;%WE;%HAR;%HOE;%FI;%YN;%ELIFI;%pzGAN;%AIN;;;%AEN;%HARDg;%LABIALg;",
    "SUNDANESEpsBINDU SURYA;$PANGLONG;$PURNAMA;$CAKRA;$LEU SATANGA;$KA SATANGA;$DA SATANGA;",
    "$BA SATANGA"]),
  (0x1cd0, ["VEDICskKARSHANA;#SHARA;#PRENKHA;!gNIHSHVASA;#YAJURVEDIC MIDLINE SVARITA;",
    "!skYAJURVEDIC AGGRAVATEDzhSVARITA;$zhSVARITA;$KATHAKAzhSVARITA;#CANDRAm;",
    "#YAJURVEDIC KATHAKAzhSVARITA SCHROEDER;#lSVARITA;#shSVARITA;#KATHAKA ANUDATTA;#pnm;#pjqym;",
    "#ofqym;#RIGVEDIC KASHMIRIzhSVARITA;#ATHARVAVEDICzhSVARITA;!gsoSVARITA;$UDATTA;#pgsoUDATTA;",
    "#soANUDATTA;#pgsoANUDATTA;#soUDATTAbus;$ANUDATTAbus;#qnANTARGOMUKHA;$BAHIRGOMUKHA;",
    "$VAMAGOMUKHA;%bus;#TIRYAK;#HEXIFORMsjqn;#sjqn;#RTHANGsjqn;#qnUBHAYATO MUKHA;#ARDHAVISARGA;",
    "#qiARDHAVISARGA;!skCANDRAi;!gJIHVAMULIYA;#UPADHMANIYA;#ATIKRAMA;!skrmi;#lrmi;",
    "!glqnANTARGOMUKHA"]),
  (0x1d00, ["szadcA;%AE;!dapzAE;!adcBARRED B;%C;%D;%ETH;%E;!dapzseE;%I;!adcJ;%K;%Lbog;%M;%pgN;",
    "%O;%seO;!daSIDEWAYS O;%seO;%Obog;$pzOE;!adcOU;!daTOPqhO;$umqhO;!adcP;%pgR;%pzR;%T;%U;",
    "!daSIDEWAYS U;%DIAERESIZED U;%pzM;!adcV;%W;%Z;%EZH;#VOICED LARYNGEAL SPIRANT;#AIN;xvadcza;",
    "%LAMDA;%PI;%RHO;%PSI;xtadcEL;sracA;$AE;$B;$BARRED B;$D;$E;$pgE;$G;$H;$I;$J;$K;$L;$M;$N;",
    "$pgN;$O;$OU;$P;$R;$T;$U;$W;#dA;$pzA;$wa;$pzAE;$B;$D;$E;$SCHWA;$seE;$pzseE;$G;$pzI;$K;$M;",
    "$ENG;$O;$seO;$TOPqhO;$umqhO;$P;$T;$U;$SIDEWAYS U;$pzM;$V;$AIN;$BETA;$xvza;$DELTA;$xvPHI;",
    "$CHI;szSUBSCRIPTdaI;%R;%U;%V;xvSUBSCRIPTdaBETA;%za;%RHO;%PHI;%CHI;szdaUE;$Bbomqc;$Dbomqc;",
    "$Fbomqc;$Mbomqc;$Nbomqc;$Pbomqc;$Rbomqc;&FISHHOOKojomqc;$Sbomqc;$Tbomqc;$Zbomqc;$pzG;",
    "sraxtEN;szdawzG;$THbSTRIKETHROUGH;#caIbog;#ayxbog;$Pbog;#caUbog;#augbog;$Bbtvpe;$Dbtvpe;",
    "$Fbtvpe;$Gbtvpe;$Kbtvpe;$Lbtvpe;$Mbtvpe;$Nbtvpe;$Pbtvpe;$Rbtvpe;$Sbtvpe;$ESHbtvpe;$Vbtvpe;",
    "$Xbtvpe;$Zbtvpe;$Abqqpe;$wabqqpe;$Dbpeojus;$Ebqqpe;$seEbqqpe;$pgseEbqqpe;$SCHWAbqqpe;",
    "$Ibqqpe;$seObqqpe;$ESHbqqpe;$Ubqqpe;$EZHbqqpe;sradpzwa;$C;%bCURL;$ETH;$pgseE;$F;$yzJbog;",
    "$wiG;$pzH;$Ibog;$yx;$cI;&bog;$Jbxk;$Lbqqpe;&tvpe;$cL;$Mbpe;$pzMbsjLEG;$Nbodpe;&qqpe;$cN;",
    "$BARRED O;$PHI;$Sbpe;$ESH;$Tbtvpe;$Ury;$ug;$cU;$Vbpe;$pzV;$Z;%bqqpe;&CURL;$EZH;$yd;",
    "ratmrqti;#qmti;!SNAKEm;!SUSPENSIONoq;!MACRON-ACUTE;!GRAVE-MACRON;!MACRON-GRAVE;",
    "!ACUTE-MACRON;!GRAVE-ACUTE-GRAVE;!ACUTE-GRAVE-ACUTE;!szdaRm;!BREVE-MACRON;!MACRON-BREVE;",
    "!losi;!OGONEKi;!ZIGZAGm;!ISm;!URi;!USi;!szdaFLATTENEDseAi;%AE;%AO;%AV;%Ctu;%wzD;%ETH;%G;",
    "#adcG;#daK;%L;#adcL;&M;#daN;#adcN;&R;#daR ROTUNDA;%S;%sjS;%Z;%wa;%B;%BETA;%SCHWA;%F;",
    "%Lblomqc;%ObpyCENTRALIZATIONog;%P;%ESH;%UbpyCENTRALIZATIONog;%W;%Abox;%Obox;%Ubox;!ytyhi;",
    "!KAVYKAih;$od;!pniod;!WIDEpoBRIDGEm;!pnmod;!DELETIONoq;!lpospm;!zppwvtm;!odozi;!hozojqjozm;",
    "szcaAbrmm;!daAbrmm;!caBbpni;!daBbpni;!caBbpnm;!daBbpnm;!caBbtqm;!daBbtqm;!caCbtuojqm;",
    "!daCbtuojqm;!caDbpni;!daDbpni;!caDbpnm;!daDbpnm;!caDbtqm;!daDbtqm;!caDbtu;!daDbtu;!caDbosm;",
    "!daDbosm;!caEbrcojrq;!daEbrcojrq;!caEbrcojqm;!daEbrcojqm;!caEbosm;!daEbosm;!caEbqcm;",
    "!daEbqcm;!caEbtuojsp;!daEbtuojsp;!caFbpni;!daFbpni;!caGbrc;!daGbrc;!caHbpni;!daHbpni;",
    "!caHbpnm;!daHbpnm;!caHbox;!daHbox;!caHbtu;!daHbtu;!caHbspm;!daHbspm;!caIbqcm;!daIbqcm;",
    "!caIboxojqm;!daIboxojqm;!caKbqm;!daKbqm;!caKbpnm;!daKbpnm;!caKbtqm;!daKbtqm;!caLbpnm;",
    "!daLbpnm;!caLbpnmojrc;!daLbpnmojrc;!caLbtqm;!daLbtqm;!caLbosm;!daLbosm;!caMbqm;!daMbqm;",
    "!caMbpni;!daMbpni;!caMbpnm;!daMbpnm;!caNbpni;!daNbpni;!caNbpnm;!daNbpnm;!caNbtqm;!daNbtqm;",
    "!caNbosm;!daNbosm;!caObqcojqm;!daObqcojqm;!caObqcojox;!daObqcojox;!caObrcojrq;!daObrcojrq;",
    "!caObrcojqm;!daObrcojqm;!caPbqm;!daPbqm;!caPbpni;!daPbpni;!caRbpni;!daRbpni;!caRbpnm;",
    "!daRbpnm;!caRbpnmojrc;!daRbpnmojrc;!caRbtqm;!daRbtqm;!caSbpni;!daSbpni;!caSbpnm;!daSbpnm;",
    "!caSbqmojpni;!daSbqmojpni;!caSbtxojpni;!daSbtxojpni;!caSbpnmojpni;!daSbpnmojpni;!caTbpni;",
    "!daTbpni;!caTbpnm;!daTbpnm;!caTbtqm;!daTbtqm;!caTbosm;!daTbosm;!caUboxm;!daUboxm;!caUbqcm;",
    "!daUbqcm;!caUbosm;!daUbosm;!caUbqcojqm;!daUbqcojqm;!caUbrcojox;!daUbrcojox;!caVbqc;!daVbqc;",
    "!caVbpnm;!daVbpnm;!caWbrq;!daWbrq;!caWbqm;!daWbqm;!caWbox;!daWbox;!caWbpni;!daWbpni;",
    "!caWbpnm;!daWbpnm;!caXbpni;!daXbpni;!caXbox;!daXbox;!caYbpni;!daYbpni;!caZbos;!daZbos;",
    "!caZbpnm;!daZbpnm;!caZbtqm;!daZbtqm;$Hbtqm;$Tbox;$Wbrmi;$Ybrmi;$Abhqhrm;$sjSbpni;(rbog;",
    "(stog;!caSHARP S;!daDELTA;!caAbpnm;!daAbpnm;!caAbpei;!daAbpei;!caAbosojqm;!daAbosojqm;",
    "!caAbosojrq;!daAbosojrq;!caAbosojpei;!daAbosojpei;!caAbosojqc;!daAbosojqc;!caAbosojpnm;",
    "!daAbosojpnm;!caAbspojqm;!daAbspojqm;!caAbspojrq;!daAbspojrq;!caAbspojpei;!daAbspojpei;",
    "!caAbspojqc;!daAbspojqc;!caAbspojpnm;!daAbspojpnm;!caEbpnm;!daEbpnm;!caEbpei;!daEbpei;",
    "!caEbqc;!daEbqc;!caEbosojqm;!daEbosojqm;!caEbosojrq;!daEbosojrq;!caEbosojpei;!daEbosojpei;",
    "!caEbosojqc;!daEbosojqc;!caEbosojpnm;!daEbosojpnm;!caIbpei;!daIbpei;!caIbpnm;!daIbpnm;",
    "!caObpnm;!daObpnm;!caObpei;!daObpei;!caObosojqm;!daObosojqm;!caObosojrq;!daObosojrq;",
    "!caObosojpei;!daObosojpei;!caObosojqc;!daObosojqc;!caObosojpnm;!daObosojpnm;!caObygojqm;",
    "!daObygojqm;!caObygojrq;!daObygojrq;!caObygojpei;!daObygojpei;!caObygojqc;!daObygojqc;",
    "!caObygojpnm;!daObygojpnm;!caUbpnm;!daUbpnm;!caUbpei;!daUbpei;!caUbygojqm;!daUbygojqm;",
    "!caUbygojrq;!daUbygojrq;!caUbygojpei;!daUbygojpei;!caUbygojqc;!daUbygojqc;!caUbygojpnm;",
    "!daUbygojpnm;!caYbrq;!daYbrq;!caYbpnm;!daYbpnm;!caYbpei;!daYbpei;!caYbqc;!daYbqc;",
    "!caMIDDLE-WELSH LL;!daMIDDLE-WELSH LL;!caMIDDLE-WELSH V;!daMIDDLE-WELSH V;!caYbLOOP;",
    "!daYbLOOP;xvdawabrk;&ri;&rkojsa;&riojsa;&rkojud;&riojud;&rkojpr;&riojpr;!cawabrk;&ri;",
    "&rkojsa;&riojsa;&rkojud;&riojud;&rkojpr;&riojpr;!daupbrk;&ri;&rkojsa;&riojsa;&rkojud;",
    "&riojud;;;!caupbrk;&ri;&rkojsa;&riojsa;&rkojud;&riojud;;;!daETAbrk;&ri;&rkojsa;&riojsa;",
    "&rkojud;&riojud;&rkojpr;&riojpr;!caETAbrk;&ri;&rkojsa;&riojsa;&rkojud;&riojud;&rkojpr;",
    "&riojpr;!dayxbrk;&ri;&rkojsa;&riojsa;&rkojud;&riojud;&rkojpr;&riojpr;!cayxbrk;&ri;&rkojsa;",
    "&riojsa;&rkojud;&riojud;&rkojpr;&riojpr;!daxbbrk;&ri;&rkojsa;&riojsa;&rkojud;&riojud;;;",
    "!caxbbrk;&ri;&rkojsa;&riojsa;&rkojud;&riojud;;;!daugbrk;&ri;&rkojsa;&riojsa;&rkojud;",
    "&riojud;&rkojpr;&riojpr;;!caugbri;;(ojsa;;)ud;;)pr;!dauxbrk;&ri;&rkojsa;&riojsa;&rkojud;",
    "&riojud;&rkojpr;&riojpr;!cauxbrk;&ri;&rkojsa;&riojsa;&rkojud;&riojud;&rkojpr;&riojpr;",
    "!dawabsa;&ud;$upbsa;&ud;$ETAbsa;&ud;$yxbsa;&ud;$xbbsa;&ud;$ugbsa;&ud;$uxbsa;&ud;;;",
    "$wabrkojpm;&riojpm;&rkojsaojpm;&riojsaojpm;&rkojudojpm;&riojudojpm;&rkojprojpm;&riojprojpm;",
    "!cawabrkojqg;&riojqg;&rkojsaojqg;&riojsaojqg;&rkojudojqg;&riojudojqg;&rkojprojqg;",
    "&riojprojqg;!daETAbrkojpm;&riojpm;&rkojsaojpm;&riojsaojpm;&rkojudojpm;&riojudojpm;",
    "&rkojprojpm;&riojprojpm;!caETAbrkojqg;&riojqg;&rkojsaojqg;&riojsaojqg;&rkojudojqg;",
    "&riojudojqg;&rkojprojqg;&riojprojqg;!dauxbrkojpm;&riojpm;&rkojsaojpm;&riojsaojpm;",
    "&rkojudojpm;&riojudojpm;&rkojprojpm;&riojprojpm;!cauxbrkojqg;&riojqg;&rkojsaojqg;",
    "&riojsaojqg;&rkojudojqg;&riojudojqg;&rkojprojqg;&riojprojqg;!dawabVRACHY;&rc;&saojpm;&pm;",
    "&udojpm;;&pr;(ojpm;!cawabVRACHY;&rc;&sa;&ud;&qg;!KORONIS;!qg;!rk;!pr;!wlojpr;!daETAbsaojpm;",
    "&pm;&udojpm;;&pr;(ojpm;!caupbsa;&ud;$ETAbsa;&ud;&qg;!rkojsa;$ud;$pr;!dayxbVRACHY;&rc;",
    "&wlojsa;)ud;;;&pr;&wlojpr;!cayxbVRACHY;&rc;&sa;&ud;;!riojsa;$ud;$pr;!daugbVRACHY;&rc;",
    "&wlojsa;)ud;$RHObrk;&ri;$ugbpr;&wlojpr;!caugbVRACHY;&rc;&sa;&ud;$RHObri;!wlojsa;$ud;!sa;;;",
    "!dauxbsaojpm;&pm;&udojpm;;&pr;(ojpm;!caxbbsa;&ud;$uxbsa;&ud;&qg;!ud;!ri"])]

end Tweaks.Text
