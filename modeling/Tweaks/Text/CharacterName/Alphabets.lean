/-!
# Names of letters of the alphabets of Europe and Asia

The names that Unicode gives to characters, run by run: each after the other from the first one
of the run.  A mark at the start of a name says how many words it has in common with the one
before it, and small letters stand for common words.
-/

namespace Tweaks.Text

/-- The names of letters of the alphabets of Europe and Asia. -/
def alphabetNames : List (Nat × List String) := [
  (0x20, ["zc;rpoq;rwoq;reg;DOLLARg;PERCENTg;AMPERSAND;ze;odpu;hpu;qv;qbg;sb;HYPHEN-MINUS;veta;",
    "vc;qerx;!pk;!pj;!of;!pd;!ph;!rt;!pi;!pa;!ql;wg;xy;plg;uag;ovg;svoq;COMMERCIAL AT;szcaA;$B;",
    "$C;$D;$E;$F;$G;$H;$I;$J;$K;$L;$M;$N;$O;$P;$Q;$R;$S;$T;$U;$V;$W;$X;$Y;$Z;odoyor;wcvc;hoyor;",
    "osti;uotq;rqti;szdaA;$B;$C;$D;$E;$F;$G;$H;$I;$J;$K;$L;$M;$N;$O;$P;$Q;$R;$S;$T;$U;$V;$W;$X;",
    "$Y;$Z;odxsor;obtq;hxsor;qc"]),
  (0xa0, ["NO-BREAKzc;porpoq;CENTg;POUNDg;CURRENCYg;YENg;BROKENry;vbg;ox;COPYRIGHTg;",
    "FEMININE ORDINAL INDICATOR;rslsyrwoq;xxg;SOFT HYPHEN;REGISTEREDg;rc;DEGREEg;PLUS-MINUSg;",
    "vnpj;!of;qmti;MICROg;PILCROWg;ompn;tu;vnpk;MASCULINE ORDINAL INDICATOR;qulsyrwoq;",
    "VULGARvlpkte;$qh;#ofxi;posvoq;szcaAbrq;&qm;&os;&qc;&ox;&rmi;$AE;$Cbtu;$Ebrq;&qm;&os;&ox;",
    "$Ibrq;&qm;&os;&ox;$ETH;$Nbqc;$Obrq;&qm;&os;&qc;&ox;urg;szcaObog;$Ubrq;&qm;&os;&ox;$Ybqm;",
    "$THORN;!daSHARP S;$Abrq;&qm;&os;&qc;&ox;&rmi;$AE;$Cbtu;$Ebrq;&qm;&os;&ox;$Ibrq;&qm;&os;&ox;",
    "$ETH;$Nbqc;$Obrq;&qm;&os;&qc;&ox;DIVISIONg;szdaObog;$Ubrq;&qm;&os;&ox;$Ybqm;$THORN;$Ybox;",
    "!caAbrc;!daAbrc;!caAbsp;!daAbsp;!caAbOGONEK;!daAbOGONEK;!caCbqm;!daCbqm;!caCbos;!daCbos;",
    "!caCbpni;!daCbpni;!caCbtx;!daCbtx;!caDbtx;!daDbtx;!caDbog;!daDbog;!caEbrc;!daEbrc;!caEbsp;",
    "!daEbsp;!caEbpni;!daEbpni;!caEbOGONEK;!daEbOGONEK;!caEbtx;!daEbtx;!caGbos;!daGbos;!caGbsp;",
    "!daGbsp;!caGbpni;!daGbpni;!caGbtu;!daGbtu;!caHbos;!daHbos;!caHbog;!daHbog;!caIbqc;!daIbqc;",
    "!caIbrc;!daIbrc;!caIbsp;!daIbsp;!caIbOGONEK;!daIbOGONEK;!caIbpni;!dayzI;!crvIJ;!drvIJ;",
    "!caJbos;!daJbos;!caKbtu;!daKbtu;$KRA;!caLbqm;!daLbqm;!caLbtu;!daLbtu;!caLbtx;!daLbtx;",
    "!caLbompn;!daLbompn;!caLbog;!daLbog;!caNbqm;!daNbqm;!caNbtu;!daNbtu;!caNbtx;!daNbtx;",
    "%PRECEDED BYze;!caENG;!daENG;!caObrc;!daObrc;!caObsp;!daObsp;!caOblqm;!daOblqm;!crvOE;",
    "!drvOE;!caRbqm;!daRbqm;!caRbtu;!daRbtu;!caRbtx;!daRbtx;!caSbqm;!daSbqm;!caSbos;!daSbos;",
    "!caSbtu;!daSbtu;!caSbtx;!daSbtx;!caTbtu;!daTbtu;!caTbtx;!daTbtx;!caTbog;!daTbog;!caUbqc;",
    "!daUbqc;!caUbrc;!daUbrc;!caUbsp;!daUbsp;!caUbrmi;!daUbrmi;!caUblqm;!daUblqm;!caUbOGONEK;",
    "!daUbOGONEK;!caWbos;!daWbos;!caYbos;!daYbos;!caYbox;$Zbqm;!daZbqm;!caZbpni;!daZbpni;",
    "!caZbtx;!daZbtx;$sjS;$Bbog;!caBbpe;&TOPBAR;!daBbTOPBAR;!caskrt;!daskrt;!caseO;$Cbpe;",
    "!daCbpe;!caAFRICAN D;$Dbpe;&TOPBAR;!daDbTOPBAR;$pzDELTA;!capgE;$SCHWA;$seE;$Fbpe;!daFbpe;",
    "!caGbpe;$za;!daHV;!cayx;$Ibog;$Kbpe;!daKbpe;$Lbry;$LAMBDAbog;!capzM;$Nbodpe;!daNbsjhLEG;",
    "!caObomqc;&yg;!daObyg;!caOI;!daOI;!caPbpe;!daPbpe;!aYR;!caskpj;!daskpj;!caESH;!apgESH LOOP;",
    "!daTbtvpe;!caTbpe;!daTbpe;!caTbqqpe;$Ubyg;!daUbyg;!caug;$Vbpe;$Ybpe;!daYbpe;!caZbog;",
    "!daZbog;!caEZH;%pg;!daEZHpg;%bus;!apjbog;!caskph;!daskph;!apouftabog;#WYNN;#DENTAL CLICK;",
    "#LATERAL CLICK;#ALVEOLAR CLICK;#qqCLICK;!caDZbtx;$DbdaZbtx;!daDZbtx;!caLJ;$LbdaJ;!daLJ;",
    "!caNJ;$NbdaJ;!daNJ;!caAbtx;!daAbtx;!caIbtx;!daIbtx;!caObtx;!daObtx;!caUbtx;!daUbtx;",
    "!caUboxojrc;!daUboxojrc;!caUboxojqm;!daUboxojqm;!caUboxojtx;!daUboxojtx;!caUboxojrq;",
    "!daUboxojrq;$pzE;!caAboxojrc;!daAboxojrc;!caAbpniojrc;!daAbpniojrc;!caAEbrc;!daAEbrc;",
    "!caGbog;!daGbog;!caGbtx;!daGbtx;!caKbtx;!daKbtx;!caObOGONEK;!daObOGONEK;!caObOGONEKojrc;",
    "!daObOGONEKojrc;!caEZHbtx;!daEZHbtx;$Jbtx;!caDZ;$DbdaZ;!daDZ;!caGbqm;!daGbqm;!caHWAIR;",
    "$WYNN;$Nbrq;!daNbrq;!caAbrmiojqm;!daAbrmiojqm;!caAEbqm;!daAEbqm;!caObogojqm;!daObogojqm;",
    "!caAblrq;!daAblrq;!caAbposp;!daAbposp;!caEblrq;!daEblrq;!caEbposp;!daEbposp;!caIblrq;",
    "!daIblrq;!caIbposp;!daIbposp;!caOblrq;!daOblrq;!caObposp;!daObposp;!caRblrq;!daRblrq;",
    "!caRbposp;!daRbposp;!caUblrq;!daUblrq;!caUbposp;!daUbposp;!caSbsbm;!daSbsbm;!caTbsbm;",
    "!daTbsbm;!caYOGH;!daYOGH;!caHbtx;!daHbtx;!caNbsjhLEG;!daDbCURL;!caOU;!daOU;!caZbpe;!daZbpe;",
    "!caAbpni;!daAbpni;!caEbtu;!daEbtu;!caOboxojrc;!daOboxojrc;!caObqcojrc;!daObqcojrc;!caObpni;",
    "!daObpni;!caObpniojrc;!daObpniojrc;!caYbrc;!daYbrc;$LbCURL;$NbCURL;$TbCURL;$yzJ;$DBue;",
    "$QPue;!caAbog;$Cbog;!daCbog;!caLbry;$Tbrbog;!daSbSWASHus;$ZbSWASHus;!caufta;!daufta;",
    "!caBbog;$Ury;$pzV;$Ebog;!daEbog;!caJbog;!daJbog;!cadQbpeus;!daQbpeus;!caRbog;!daRbog;",
    "!caYbog;!daYbog;$pzA;$wa;$pzwa;$Bbpe;$seO;$CbCURL;$Dbus;&pe;$pgE;$SCHWA;%bpe;$seE;$pgseE;",
    "(bpe;$typgseE;$yzJbog;$Gbpe;$wiG;!adcG;!daza;$RAMSyg;$pzH;$Hbpe;$HENGbpe;$Ibog;$yx;!adcI;",
    "!daLbomqc;&BELT;&qqpe;$LEZH;$pzM;&bsjLEG;$Mbpe;$Nbodpe;&qqpe;!adcN;!daBARRED O;!adcOE;",
    "!datyux;$PHI;$pzR;&bsjLEG;(pe;$RbsjLEG;&us;&FISHHOOK;$pgRbFISHHOOK;!adcR;%poR;!daSbpe;$ESH;",
    "$yzJbogojpe;$SQUATpgESH;$ESHbCURL;$pzT;$Tbqqpe;$Ury;$ug;$Vbpe;$pzV;%W;%Y;!adcY;!daZbqqpe;",
    "&CURL;$EZH;%bCURL;!aufta;#PHARYNGEAL VOICED FRICATIVE;#poufta;#STRETCHED C;#BILABIAL CLICK;",
    "#dcB;!datyseE;!adcGbpe;%H;!daJbxk;$pzK;!adcL;!daQbpe;!auftabog;#pguftabog;!daDZue;$DEZHue;",
    "$DZuebCURL;$TSue;$TESHue;$TCuebCURL;$FENGue;$LSue;$LZue;!aBILABIAL PERCUSSIVE;",
    "#BIDENTAL PERCUSSIVE;!dapzHbFISHHOOK;)ojus;sradH;%bpe;$J;$R;$pzR;&bpe;$cpoR;$W;$Y;#PRIME;",
    "#lPRIME;#pzsb;#ze;#pgsb;#hqhrm;#odqhrm;#ufta;#pgufta;#odoz;#hoz;#ytoz;#qjoz;#osti;tx;",
    "sraobtq;#rc;#qmti;#rqti;#uoobtq;$rc;$rqti;$qmti;#sxwg;#qhsxwg;#CENTREDhqhrm;$odqhrm;#ytyh;",
    "#qjyh;#qbg;#MINUSg;sp;pni;rmi;OGONEK;dqc;lqmti;sraRHOTICpe;#ttti;#dza;$L;$S;$X;$pgufta;",
    "#EXTRA-HIGHskry;#stskry;#MIDskry;#uoskry;#EXTRA-LOWskry;#YIN DEPARTINGskoq;",
    "#YANG DEPARTINGskoq;#VOICING;#UNASPIRATED;#lze;#uoqjoz;$ytoz;$odoz;$hoz;$rm;#omrqti;$lrqti;",
    "%qmti;#uoqc;#vwwg;#BEGINstsk;#ENDstsk;#BEGINuosk;#ENDuosk;#SHELF;#seSHELF;#uoodf;rarqti;",
    "!qmti;!osti;!qc;!rc;!OVERLINE;!sp;!pni;!ox;!pei;!rmi;!lqmti;!tx;!obtqi;!lobtqi;#rqti;!qz;",
    "!posp;!pzsbi;!sbi;!pgsbi;!sbih;!rqtim;!qmtim;!odyhm;!hyhm;!odsyi;!yg;!odqhrmm;!ytyhm;",
    "!qjyhm;!qbgm;!MINUSgm;!PALATALIZEDpem;!qqpem;!pnm;!oxm;!rmm;!sbm;!tu;!OGONEK;!obtqm;",
    "!BRIDGEm;!polARCHm;!txm;!ostim;!spm;!pospm;!qcm;!rcm;!uotq;!luotq;!qcvh;!tdogvh;!sjogvh;",
    "!tdvcvh;!sjvcvh;!hqhrmm;!poBRIDGEm;!oym;!SEAGULLm;!Xi;!obqc;!lOVERLINE;!rqskoq;!qmskoq;",
    "!xvpr;#KORONIS;#wlTONOS;#pm;!BRIDGEi;!uagm;!lobtqm;!odsym;!xxqci;!HOMOTHETICi;!zppwvti;",
    "!odhfm;!pffm;!GRAPHEME JOINER;!hozi;!odqhrmi;!FERMATA;!Xm;!odozm;!hozm;$ojytozm;#qhrmi;",
    "!pnih;!qvm;!lrmm;!ZIGZAGi;!lspm;$;#rc;$m;#qc;#posp;#kfm;!szdaA;%E;%I;%O;%U;%C;%D;%H;%M;%R;",
    "%T;%V;%X;xvcaHETA;!daHETA;!cawoSAMPI;!dawoSAMPI;!NUMERALg;!qfNUMERALg;",
    "!caPAMPHYLIAN DIGAMMA;!daPAMPHYLIAN DIGAMMA;;;!pm;!dpgLUNATExwoh;#tmLUNATExwoh;",
    "#pgtmLUNATExwoh;!svoq;!caYOT"]),
  (0x384, ["xvTONOS;!wlTONOS;!cawabTONOS;!ANO TELEIA;!caupbTONOS;$ETAbTONOS;$yxbTONOS;;",
    "$xbbTONOS;;$ugbTONOS;$uxbTONOS;!dayxbwlojTONOS;!cawa;$BETA;$za;$DELTA;$up;$ZETA;$ETA;$yd;",
    "$yx;$KAPPA;$LAMDA;$MU;$NU;$XI;$xb;$PI;$RHO;;$xw;$TAU;$ug;$PHI;$CHI;$PSI;$ux;$yxbwl;$ugbwl;",
    "!dawabTONOS;$upbTONOS;$ETAbTONOS;$yxbTONOS;$ugbwlojTONOS;$wa;$BETA;$za;$DELTA;$up;$ZETA;",
    "$ETA;$yd;$yx;$KAPPA;$LAMDA;$MU;$NU;$XI;$xb;$PI;$RHO;$nxw;$xw;$TAU;$ug;$PHI;$CHI;$PSI;$ux;",
    "$yxbwl;$ugbwl;$xbbTONOS;$ugbTONOS;$uxbTONOS;!cKAIoh;!BETAoh;!ydoh;!ugbpeoh;$qmojpeoh;",
    "$oxojpeoh;!PHIoh;!PIoh;!KAIoh;!awoKOPPA;!dawoKOPPA;!aSTIGMA;!daSTIGMA;!aDIGAMMA;!daDIGAMMA;",
    "!aKOPPA;!daKOPPA;!aSAMPI;!daSAMPI;vvcaSHEI;!daSHEI;!caFEI;!daFEI;!caKHEI;!daKHEI;!caHORI;",
    "!daHORI;!caGANGIA;!daGANGIA;!caSHIMA;!daSHIMA;!caDEI;!daDEI;xvKAPPAoh;!RHOoh;!LUNATExwoh;",
    "!aYOT;!cydoh;!LUNATEupoh;!pgLUNATEupoh;!caSHO;!daSHO;!cLUNATExwoh;#aSAN;!daSAN;!RHObogoh;",
    "!cpgLUNATExwoh;#tmLUNATExwoh;#pgtmLUNATExwoh;xtcaIEbrq;$IO;$DJE;$GJE;$UKRAINIAN IE;$DZE;",
    "$BYELORUSSIAN-UKRAINIAN I;$YI;$JE;$LJE;$NJE;$TSHE;$KJE;$Ibrq;$tdU;$DZHE;$A;$BE;$VE;$GHE;",
    "$DE;$IE;$ZHE;$ZE;$I;$tdI;$KA;$EL;$EM;$EN;$O;$PE;$ER;$ES;$TE;$U;$EF;$HA;$TSE;$CHE;$wf;",
    "$SHCHA;$HARDg;$YERU;$SOFTg;$E;$YU;$YA;!daA;$BE;$VE;$GHE;$DE;$IE;$ZHE;$ZE;$I;$tdI;$KA;$EL;",
    "$EM;$EN;$O;$PE;$ER;$ES;$TE;$U;$EF;$HA;$TSE;$CHE;$wf;$SHCHA;$HARDg;$YERU;$SOFTg;$E;$YU;$YA;",
    "$IEbrq;$IO;$DJE;$GJE;$UKRAINIAN IE;$DZE;$BYELORUSSIAN-UKRAINIAN I;$YI;$JE;$LJE;$NJE;$TSHE;",
    "$KJE;$Ibrq;$tdU;$DZHE;!caux;!daux;!caYAT;!daYAT;!cawqE;!dawqE;!caroYUS;!daroYUS;!cawqroYUS;",
    "!dawqroYUS;!caBIG YUS;!daBIG YUS;!cawqBIG YUS;!dawqBIG YUS;!caKSI;!daKSI;!caPSI;!daPSI;",
    "!caFITA;!daFITA;!caIZHITSA;!daIZHITSA;!caIZHITSAblrqti;!daIZHITSAblrqti;!caUK;!daUK;",
    "!caROUNDux;!daROUNDux;!cauxbTITLO;!dauxbTITLO;!caOT;!daOT;!caKOPPA;!daKOPPA;!THOUSANDSg;",
    "raxtTITLO;#PALATALIZATION;#riPNEUMATA;#rkPNEUMATA;#POKRYTIE;#onTHOUSANDSg;#MILLIONSg;",
    "xtcatdIbus;!datdIbus;!caSEMISOFTg;!daSEMISOFTg;!caERbTICK;!daERbTICK;!caGHEbUPTURN;",
    "!daGHEbUPTURN;!caGHEbog;!daGHEbog;!caGHEbompe;!daGHEbompe;!caZHEbqt;!daZHEbqt;!caZEbqt;",
    "!daZEbqt;!caKAbqt;!daKAbqt;!caKAbobog;!daKAbobog;!caKAbog;!daKAbog;!caBASHKIR KA;",
    "!daBASHKIR KA;!caENbqt;!daENbqt;!crvEN GHE;!drvEN GHE;!caPEbompe;!daPEbompe;",
    "!caABKHASIAN HA;!daABKHASIAN HA;!caESbqt;!daESbqt;!caTEbqt;!daTEbqt;!caubU;!daubU;",
    "!caubUbog;!daubUbog;!caHAbqt;!daHAbqt;!crvTE TSE;!drvTE TSE;!caCHEbqt;!daCHEbqt;",
    "!caCHEbobog;!daCHEbobog;!caSHHA;!daSHHA;!caABKHASIAN CHE;!daABKHASIAN CHE;",
    "!caABKHASIAN CHEbqt;!daABKHASIAN CHEbqt;!aPALOCHKA;!caZHEbsp;!daZHEbsp;!caKAbpe;!daKAbpe;",
    "!caELbus;!daELbus;!caENbpe;!daENbpe;!caENbus;!daENbus;!caKHAKASSIAN CHE;!daKHAKASSIAN CHE;",
    "!caEMbus;!daEMbus;$PALOCHKA;!caAbsp;!daAbsp;!caAbox;!daAbox;!crvA IE;!drvA IE;!caIEbsp;",
    "!daIEbsp;!caSCHWA;!daSCHWA;!caSCHWAbox;!daSCHWAbox;!caZHEbox;!daZHEbox;!caZEbox;!daZEbox;",
    "!caABKHASIAN DZE;!daABKHASIAN DZE;!caIbrc;!daIbrc;!caIbox;!daIbox;!caObox;!daObox;",
    "!caBARRED O;!daBARRED O;!caBARRED Obox;!daBARRED Obox;!caEbox;!daEbox;!caUbrc;!daUbrc;",
    "!caUbox;!daUbox;!caUblqm;!daUblqm;!caCHEbox;!daCHEbox;!caGHEbqt;!daGHEbqt;!caYERUbox;",
    "!daYERUbox;!caGHEbogojpe;!daGHEbogojpe;!caHAbpe;!daHAbpe;!caHAbog;!daHAbog;!caKOMI DE;",
    "!daKOMI DE;!caKOMI DJE;!daKOMI DJE;!caKOMI ZJE;!daKOMI ZJE;!caKOMI DZJE;!daKOMI DZJE;",
    "!caKOMI LJE;!daKOMI LJE;!caKOMI NJE;!daKOMI NJE;!caKOMI SJE;!daKOMI SJE;!caKOMI TJE;",
    "!daKOMI TJE;!capgZE;!dapgZE;!caELbpe;!daELbpe;!caLHA;!daLHA;!caRHA;!daRHA;!caYAE;!daYAE;",
    "!caQA;!daQA;!caWE;!daWE;!caALEUT KA;!daALEUT KA;!caELbompe;!daELbompe;!caENbompe;",
    "!daENbompe;!caPEbqt;!daPEbqt;!caSHHAbqt;!daSHHAbqt;!caENbodpe;!daENbodpe;!caDZZHE;!daDZZHE;",
    "!caDCHE;!daDCHE;!caELbqt;!daELbqt;;ARMENIANcaAYB;$BEN;$GIM;$DA;$ECH;$ZA;$EH;$ET;$vt;$ZHE;",
    "$INI;$LIWN;$XEH;$CA;$KEN;$HO;$JA;$GHAD;$CHEH;$MEN;$YI;$NOW;$wf;$VO;$wx;$PEH;$JHEH;$RA;$SEH;",
    "$VEW;$TIWN;$REH;$CO;$YIWN;$PIWR;$KEH;$OH;$FEH;;;!sraodqhrm;!ze;!EMPHASISoq;!rpoq;!sb;!svoq;",
    "!suoq;!dapzAYB;$AYB;$BEN;$GIM;$DA;$ECH;$ZA;$EH;$ET;$vt;$ZHE;$INI;$LIWN;$XEH;$CA;$KEN;$HO;",
    "$JA;$GHAD;$CHEH;$MEN;$YI;$NOW;$wf;$VO;$wx;$PEH;$JHEH;$RA;$SEH;$VEW;$TIWN;$REH;$CO;$YIWN;",
    "$PIWR;$KEH;$OH;$FEH;#rvECH YIWN;#aYIbog;!veta;!HYPHEN;;;RIGHT-FACING ARMENIAN ETERNITYg;",
    "LEFT-FACING ARMENIAN ETERNITYg;ARMENIAN DRAMg;;HEBREWtiETNAHTA;#SEGOL;#SHALSHELET;",
    "#ZAQEF QATAN;$GADOL;#TIPEHA;#REVIA;#ZARQA;#PASHTA;#YETIV;#TEVIR;#GERESH;$MUQDAM;#GERSHAYIM;",
    "#QARNEY PARA;#TELISHA GEDOLA;#PAZER;#ATNAH HAFUKH;#MUNAH;#MAHAPAKH;#MERKHA;$KEFULA;#DARGA;",
    "#QADMA;#TELISHA QETANA;#YERAH BEN YOMO;#OLE;#ILUY;#DEHI;#ZINOR;!oqMASORApc;!POINT SHEVA;",
    "#HATAF SEGOL;$PATAH;$QAMATS;#HIRIQ;#TSERE;#SEGOL;#PATAH;#QAMATS;#HOLAM;$HASER FOR VAV;",
    "#QUBUTS;#wsOR MAPIQ;#METEG;!psMAQAF;!POINT RAFE;!psPASEQ;!POINTzkpn;#SINpn;!psSOF PASUQ;",
    "!oqqwpn;#qfpn;!psNUN HAFUKHA;!POINT QAMATS QATAN"]),
  (0x5d0, ["HEBREWarj;#BET;#GIMEL;#DALET;#HE;#VAV;#ZAYIN;#HET;#TET;#YOD;#nKAF;#KAF;#LAMED;#nMEM;",
    "#MEM;#nNUN;#NUN;#zu;#AYIN;#nPE;#PE;#nTSADI;#TSADI;#QOF;#RESH;#zk;#TAV"]),
  (0x5ef, ["HEBREW YODot;!rvYIDDISHlVAV;$VAV YOD;$lYOD;!psGERESH;#GERSHAYIM"]),
  (0x600, ["vpreg;!gSANAH;!FOOTNOTE MARKER;!gSAFHA;#SAMVAT;!reoqi;wjCUBE ROOT;!FOURTH ROOT;",
    "vpRAY;wjPER MILLEg;#voopg;AFGHANIg;vpsb;!DATEtf;!POETIC VERSEg;!gMISRA;",
    "#SALLALLAHOU ALAYHE WASSALLAM;#ALAYHE ASSALLAM;#RAHMATULLAH ALAYHE;#RADI ALLAHOU ANHU;",
    "#TAKHALLUS;!dstTAH;$rvrjbLAMbth;$ZAIN;#FATHA;#DAMMA;#KASRA;!xy;!aoq;!ENDwhTEXToq;!shpnpsoq;",
    "!svoq;!aKASHMIRIth;#vi;#rjbMADDAi;%vii;#WAWbvii;#rjbvim;#thbvii;#rj;#BEH;#TEH MARBUTA;$;",
    "#THEH;#sf;#ut;#uv;#DAL;#THAL;#REH;#ZAIN;#SEEN;#SHEEN;#SAD;#DAD;#TAH;#ZAH;#AIN;#GHAIN;",
    "#KEHEHbpjqyi;%ofqym;#FARSIthbpoV;&pjqyi;&ofqyi;!TATWEEL;!aFEH;#QAF;#KAF;#LAM;#qa;#xg;#HEH;",
    "#WAW;#rjqd;#th;!FATHATAN;!DAMMATAN;!KASRATAN;!FATHA;!DAMMA;!KASRA;!SHADDA;!SUKUN;!MADDAHi;",
    "!vii;#m;!SUBSCRIPTrj;!poDAMMA;!oqxgGHUNNA;!ZWARAKAY;!pvgdVi;$podVi;$pnm;!pgDAMMA;",
    "!FATHAbpjqy;!WAVYvim;wjqerx;#pk;#pj;#of;#pd;#ph;#rt;#pi;#pa;#ql;vpPERCENTg;!DECIMALtf;",
    "!THOUSANDStf;!phssul;!ayzBEH;$QAF;#vnrj;#rjWASLA;$bWAVYvii;(m;#stvi;%rj;%WAW;#Ubvii;",
    "#stvith;#TTEH;#TTEHEH;#BEEH;#TEHbrm;%ofqyioo;#PEH;#TEHEH;#BEHEH;#utbvii;%pjqyobi;#NYEH;",
    "#DYEH;#utbofqyi;#TCHEH;#TCHEHEH;#DDAL;#DALbrm;%pnm;(ojdTAH;#DAHAL;#DDAHAL;#DUL;",
    "#DALbofqyioo;%pdqyi;#RREH;#REHbdV;%rm;%pnm;%dVm;%pnmojpni;%pjqyi;#JEH;#REHbpdqyi;",
    "#SEENbpnmojpni;%ofqym;)ojofqyi;#SADbpjqym;%ofqyi;#TAHbofqyi;#AINbofqyi;#yzFEH;",
    "#FEHbpnMOVEDm;&m;#VEH;#FEHbofqym;#PEHEH;#QAFbpni;%ofqyi;#KEHEH;#SWASH KAF;#KAFbrm;%pni;#NG;",
    "#KAFbofqym;#GAF;$brm;#NGOEH;#GAFbpjqym;#GUEH;#GAFbofqyi;#LAMbdV;%pni;%ofqyi;(m;#xgbpnm;",
    "$GHUNNA;#RNOON;#xgbrm;%ofqyi;#HEH DOACHASHMEE;#TCHEHbpni;#HEHbthi;$GOAL;%bvii;",
    "#TEH MARBUTA GOAL;#WAWbrm;#KIRGHIZ OE;#OE;#U;#YU;#KIRGHIZ YU;#WAWbpjqyi;#VE;#FARSIth;",
    "#thbus;%dV;#WAWbpni;#E;#thbofqym;$BARREE;%bvii;!veta;!aAE;!dstrvSADbLAMbrjqd;%QAFbLAMbrjqd;",
    "$qaoce;$LAMrj;$sf;$ofqy;$SEEN;!ENDwhAYAH;!STARTwhRUB EL HIZB;!dstROUNDEDrx;",
    "$UPRIGHT RECTANGULARrx;$yzHEADwhuv;$qaje;#uoSEEN;#stMADDA;#WAW;#th;#stth;$xg;",
    "!PLACEwhSAJDAH;!EMPTYrluota;$stta;!ROUNDEDsttabFILLEDrl;!duoqa;!aDALbpoV;#REHbpoV;",
    "EXTENDEDwjqerx;$pk;$pj;$of;$pd;$ph;$rt;$pi;$pa;$ql;vpaSHEENbpnm;#DADbpnm;#GHAINbpnm;",
    "!gSINDHI AMPERSAND;$POSTPOSITION MEN;!aHEHbpoV;SYRIAC ENDwhPARAGRAPH;!SUPRALINEARveta;",
    "!SUBLINEARveta;!SUPRALINEARwg;!SUBLINEARwg;!oiwg;!wgSKEWEDod;$h;!SUPRALINEARwgSKEWEDod;",
    "!SUBLINEARwgSKEWEDh;!CONTRACTION;!HARKLEAN OBELUS;#METOBELUS;#ASTERISCUS;;!suoq;!aALAPH;",
    "#vnALAPH;#BETH;#GAMAL;$GARSHUNI;#DALATH;#yzDALATH RISH;#HE;#WAW;#ZAIN;#HETH;#TETH;",
    "$GARSHUNI;#YUDH;$HE;#KAPH;#LAMADH;#MIM;#NUN;#SEMKATH;#nSEMKATH;#E;#PE;#pgPE;#SADHE;#QAPH;",
    "#RISH;#zk;#TAW;#PERSIAN BHETH;$GHAMAL;$DHALATH;!PTHAHAi;#m;#tm;!ZQAPHAi;#m;#tm;!RBASAi;#m;",
    "!tmZLAMAoi;$ANGULAR;!HBASAi;#m;!HBASA-ESASAtm;!ESASAi;#m;!RWAHA;!FEMININEpn;!QUSHSHAYA;",
    "!RUKKAKHA;!pjobqyi;%m;!ofqyi;$m;!yotqi;$m;!MUSIC;!BARREKH;;;!aSOGDIAN ZHAIN;$KHAPH;$FE;",
    "vpaBEHbofqyHORIZONTALLYm;%pnmojofqyi;%ofqypppfm;+ojpjqyi;%pjqymojpni;%podVm;%dV;#utbpjqyi;",
    "%ofqypppfm;#DALbpjqyVERTICALLYmojdTAH;%podVm;#REHbog;#SEENbpdqyi;#AINbpjqyi;%ofqyppooi;",
    "%pjqyVERTICALLYi;#FEHbpjqym;%ofqypppfm;#KEHEHbpni;%ofqyi;(pppfm;#qabpni;&m;#xgbpjqym;%dTAH;",
    "&V;#LAMbry;#REHbpjqyVERTICALLYi;%vii;#SEENbpjqyVERTICALLYi;#utbdvpaTAHm;*ojpjqy;",
    "#SEENbdvpaTAHojpjqy;#REHbdvpaTAHojpjqy;#utbdvpaTAHi;#rjbEXTENDEDwjqepji;)ofi;",
    "#FARSIthbEXTENDEDwjqepji;*ofi;*pdm;#WAWbEXTENDEDwjqepji;)ofi;#thBARREEbEXTENDEDwjqepji;",
    "*ofi;#utbEXTENDEDwjqepdm;#SEENbEXTENDEDwjqepdi;%poV;#KAFbpjqyi;THAANAaHAA;#SHAVIYANI;",
    "#NOONU;#RAA;#BAA;#LHAVIYANI;#KAAFU;#ALIFU;#VAAVU;#MEEMU;#FAAFU;#DHAALU;#THAA;#LAAMU;#GAAFU;",
    "#GNAVIYANI;#SEENU;#DAVIYANI;#ZAVIYANI;#TAVIYANI;#YAA;#PAVIYANI;#JAVIYANI;#CHAVIYANI;#TTAA;",
    "#HHAA;#KHAA;#THAALU;#ZAA;#SHEENU;#SAADHU;#DAADHU;#vt;#ZO;#AINU;#GHAINU;#QAAFU;#WAAVU;",
    "!ABAFILI;!AABAAFILI;!IBIFILI;!EEBEEFILI;!UBUFILI;!OOBOOFILI;!EBEFILI;!EYBEYFILI;!OBOFILI;",
    "!OABOAFILI;!SUKUN;!aNAA"]),
  (0x7c0, ["NKOqerx;#pk;#pj;#of;#pd;#ph;#rt;#pi;#pa;#ql;!aA;#EE;#I;#E;#U;#OO;#O;#DAGBASINNA;#N;",
    "#BA;#PA;#TA;#JA;#wx;#DA;#RA;#RRA;#SA;#GBA;#FA;#KA;#LA;#NA WOLOSO;#MA;#xa;#NA;#HA;#WA;#YA;",
    "#xaWOLOSO;#JONA JA;$wx;$RA;!ratdstsk;$uosk;$RISINGsk;#sjDESCENDINGsk;$stsk;$uosk;$RISINGsk;",
    "#NASALIZATIONoq;#lpni;!stskze;!uoskze;!ohOO DENNEN;#GBAKURUNEN;!sb;!rpoq;!LAJANYALAN;;;",
    "!DANTAYALAN;!DOROMEg;!TAMANg;SAMARITANaALAF;#BIT;#GAMAN;#DALAT;#IY;#BAA;#ZEN;#IT;#TIT;#YUT;",
    "#KAAF;#LABAT;#MIM;#NUN;#SINGAAT;#IN;#FI;#TSAADIY;#QUF;#RISH;#SHAN;#TAAF;!oqIN;#IN-ALAF;",
    "#OCCLUSION;#ws;!sraEPENTHETIC YUT;!oqEPENTHETIC YUT;!pvgsjE;$E;$OVERLONG AA;$sjAA;$AA;",
    "$OVERLONG A;$sjA;$A;!sratdA;!pvgtdA;$sjU;$U;!sraI;!pvgsjI;$I;$O;$SUKUN;!oqNEQUDAA;;;",
    "!psNEQUDAA;#AFSAAQ;#ANGED;#BAU;#ATMAAU;#SHIYYAALAA;!suoq;!psMELODIC QITSA;#ZIQAA;#QITSA;",
    "#ZAEF;#TURU;#ARKAANU;#SOF MASHFAAT;#ANNAAU;;MANDAICaHALQA;#AB;#AG;#AD;#AH;#USHENNA;#AZ;#IT;",
    "#ATT;#AKSA;#AK;#AL;#AM;#AN;#AS;#IN;#AP;#ASZ;#AQ;#AR;#ASH;#AT;#DUSHENNA;#KAD;#AIN;",
    "!AFFRICATIONoq;!VOCALIZATIONoq;!GEMINATIONoq;;;!ps;;SYRIACaMALAYALAMwd;$JA;$xa;$zl;$NNA;",
    "$NNNA;$BHA;$RA;$LLA;$LLLA;$SSA"]),
  (0x870, ["vparjbATTACHED FATHA;&TOPhFATHA;%homog;%odomog;%ATTACHED KASRA;&umhKASRA;&ROUNDpni;",
    "&hROUNDpn;&odROUNDpn;&ROUNDpnm;%pni;%ATTACHED TOPhFATHAojpni;%homogojpni;",
    "%ATTACHEDumhKASRAojpni;&TOPhFATHAojodrm;%homogojodrm;%ATTACHEDumhKASRAojodrm;&hvi;&odvi;",
    "!TATWEELbOVERSTRUCKvi;%WAW;$pjqym;!aTHINth;!BASELINE ROUNDpn;!vwROUNDpn;!axgbpodV;",
    "#utbpodVm;#TAHbpnm;%ofqym;#KEHEHbpjqyVERTICALLYm;!obus;;!POUNDoqi;!PIASTREoqi"]),
  (0x898, ["vpdstWORD AL-JUZ;#uoWORD ISHMAAM;%IMAALA;%TASHEEL;!MADDA WAAJIB;!vnrjMOKHASSAS;",
    "!DOUBLED MADDA;!qhMADDArfMADDA;!aBEHbdVm;%vii;#sfbpjqyi;#TAHbpjqyi;#FEHbpnmojofqyi;",
    "#QAFbpnm;#LAMblry;#qabofqyi;#thbpjqymojvii;*pni;#REHbLOOP;#WAWbpnWITHIN;#ROHINGYAth;#uorj;",
    "#DALbofqym;#SADbofqym;#GAFbpoog;#ubWAW;#ZAINbpoVi;#AINbofqym;#KAFbpnm;#QAFbpnmojNOqyi;",
    "#BEHbdqai;#PEHbdqai;#TEHbdTEHi;#REHbdxgi;#thbpjqymojdxgi;#AFRICAN FEH;$QAF;$xg;#PEHbdV;",
    "#TEHbdV;#TTEHbdV;#TCHEHbdV;#KEHEHbdV;#GHAINbofqyi;#AFRICAN QAFbofqyi;#sfbofqyi;(m;",
    "#LAMbdvpaTAHi;#GRAF;!dFARSIth;#stFARSIth;$thBARREEbpjqym;$WORD SAH;$ZAH;!rnROUNDpni;%m;",
    "!SUKUNm;!rnpcm;#ROUNDpnyepcm;!duoWAW;#stWORD AR-RUB;$SAD;$AIN;$QAF;$xgbKASRA;#uoxgbKASRA;",
    "#stWORD ATH-THALATHA;%AS-SAJDA;%AN-NISF;%SAKTA;%QIF;%WAQFA;$FOOTNOTE MARKER;$gSAFHA;",
    "!DISPUTED ENDwhAYAH;!pzDAMMAm;!xsFATHA;#DAMMA;#KASRA;#FATHATAN;#DAMMATAN;#KASRATAN;",
    "!skpkpni;#pjqyi;#LOOPi;#pkpnm;#pjqym;#LOOPm;!seFATHATAN;#DAMMATAN;#KASRATAN;!dstWAW;",
    "!FATHAbrm;$pni;!KASRAbpnm;!odozi;!hozi;!odozm;!hozm;!lhozi;&bpn;!hozibpn;!DAMMAbpn;",
    "!oqSIDEWAYSxgGHUNNA;DEVANAGARIgpoqz;#qz;#qn;#so;!atdA;#A;#AA;#I;#II;#U;#UU;#qoR;$L;",
    "#CANDRA E;#tdE;#E;#AI;#CANDRA O;#tdO;#O;#AU;#KA;#xe;#GA;#GHA;#wd;#CA;#wx;#JA;#JHA;#xa;#zl;",
    "#wn;#zm;#wy;#NNA;#TA;#xr;#DA;#zr;#NA;#NNNA;#PA;#yp;#BA;#BHA;#MA;#YA;#RA;#RRA;#LA;#LLA;",
    "#LLLA;#VA;#wf;#SSA;#SA;#HA;!pvgOE;$OOE;!gyb;#wp;!pvgAA;$I;$II;$U;$UU;$qoR;%RR;$CANDRA E;",
    "$tdE;$E;$AI;$CANDRA O;$tdO;$O;$AU;!gtc;!pvgPRISHTHAMATRA E;$AW;!OM;!STRESSgUDATTA;",
    "$ANUDATTA;!rqti;!qmti;!pvgCANDRAsjE;$UE;$UUE;!aQA;#KHHA;#GHHA;#ZA;#DDDHA;#RHA;#FA;#YYA;",
    "#qoRR;$LL;!pvgqoL;%LL;!wk;!lwk;!qerx;#pk;#pj;#of;#pd;#ph;#rt;#pi;#pa;#ql;!sug;",
    "!gstSPACINGpn;!aCANDRA A;#OE;#OOE;#AW;#UE;#UUE;#MARWARIzm;#ZHA;#owYA;#GGA;#JJA;#ufta;#DDDA;",
    "#BBA;BENGALI ANJI;!gqz;#qn;#so;;!aA;#AA;#I;#II;#U;#UU;#qoR;$L;;;#E;#AI;;;#O;#AU;#KA;#xe;",
    "#GA;#GHA;#wd;#CA;#wx;#JA;#JHA;#xa;#zl;#wn;#zm;#wy;#NNA;#TA;#xr;#DA;#zr;#NA;;#PA;#yp;#BA;",
    "#BHA;#MA;#YA;#RA;;#LA;;;;#wf;#SSA;#SA;#HA;;;!gyb;#wp;!pvgAA;$I;$II;$U;$UU;$qoR;%RR;;;$E;",
    "$AI;;;$O;$AU;!gtc;!aKHANDA TA"]),
  (0x9d7, ["BENGALI AU LENGTHoq"]),
  (0x9dc, ["BENGALIaRRA;#RHA;;#YYA;#qoRR;$LL;!pvgqoL;%LL;;;!qerx;#pk;#pj;#of;#pd;#ph;#rt;#pi;",
    "#pa;#ql;!aRAbomrb;%qfrb;!RUPEEoq;#g;!CURRENCY NUMERATORpk;$pj;$of;$pd;",
    "$pkLESS THAN THE DENOMINATOR;#DENOMINATOR SIXTEEN;!ISSHAR;!GANDAoq;!aVEDICqn;!sug;",
    "!SANDHIoq;;;GURMUKHIgADAK BINDI;#BINDI;#so;;!aA;#AA;#I;#II;#U;#UU"]),
  (0xa0f, ["GURMUKHIaEE;#AI;;;#OO;#AU;#KA;#xe;#GA;#GHA;#wd;#CA;#wx;#JA;#JHA;#xa;#zl;#wn;#zm;#wy;",
    "#NNA;#TA;#xr;#DA;#zr;#NA;;#PA;#yp;#BA;#BHA;#MA;#YA;#RA;;#LA;#LLA;;#VA;#wf;;#SA;#HA;;;!gyb;;",
    "!pvgAA;$I;$II;$U;$UU"]),
  (0xa47, ["GURMUKHIpvgEE;$AI;;;$OO;$AU;!gtc;;;;#UDAAT"]),
  (0xa59, ["GURMUKHIaKHHA;#GHHA;#ZA;#RRA;;#FA"]),
  (0xa66, ["GURMUKHIqerx;#pk;#pj;#of;#pd;#ph;#rt;#pi;#pa;#ql;!TIPPI;!ADDAK;!IRI;!URA;!EK ONKAR;",
    "!gYAKASH;!sug"]),
  (0xa81, ["GUJARATIgqz;#qn;#so;;!aA;#AA;#I;#II;#U;#UU;#qoR;$L;!pvCANDRA E;;!aE;#AI;!pvCANDRA O;",
    ";!aO;#AU;#KA;#xe;#GA;#GHA;#wd;#CA;#wx;#JA;#JHA;#xa;#zl;#wn;#zm;#wy;#NNA;#TA;#xr;#DA;#zr;",
    "#NA;;#PA;#yp;#BA;#BHA;#MA;#YA;#RA;;#LA;#LLA;;#VA;#wf;#SSA;#SA;#HA;;;!gyb;#wp;!pvgAA;$I;$II;",
    "$U;$UU;$qoR;%RR;$CANDRA E;;$E;$AI;$CANDRA O;;$O;$AU;!gtc;;;!OM"]),
  (0xae0, ["GUJARATIaqoRR;$LL;!pvgqoL;%LL;;;!qerx;#pk;#pj;#of;#pd;#ph;#rt;#pi;#pa;#ql;!sug;",
    "!RUPEEg"]),
  (0xaf9, ["GUJARATIaZHA;!gSUKUN;#SHADDA;#MADDAH;#THREE-DOTybi;#pcybi;#TWO-CIRCLEybi;;ORIYAgqz;",
    "#qn;#so;;!aA;#AA;#I;#II;#U;#UU;#qoR;$L;;;#E;#AI;;;#O;#AU;#KA;#xe;#GA;#GHA;#wd;#CA;#wx;#JA;",
    "#JHA;#xa;#zl;#wn;#zm;#wy;#NNA;#TA;#xr;#DA;#zr;#NA;;#PA;#yp;#BA;#BHA;#MA;#YA;#RA;;#LA;#LLA;;",
    "#VA;#wf;#SSA;#SA;#HA;;;!gyb;#wp;!pvgAA;$I;$II;$U;$UU;$qoR;%RR;;;$E;$AI;;;$O;$AU;!gtc"]),
  (0xb55, ["ORIYAgOVERLINE;!AI LENGTHoq;!AU LENGTHoq"]),
  (0xb5c, ["ORIYAaRRA;#RHA;;#YYA;#qoRR;$LL;!pvgqoL;%LL;;;!qerx;#pk;#pj;#of;#pd;#ph;#rt;#pi;#pa;",
    "#ql;!ISSHAR;!aWA;!vlpkte;$qh;#ofxi;#pkSIXTEENTH;$vq;#ofSIXTEENTHS"]),
  (0xb82, ["TAMILgqn;#so;;!aA;#AA;#I;#II;#U;#UU;;;;#E;#EE;#AI;;#O;#OO;#AU;#KA;;;;#wd;#CA;;#JA;;",
    "#xa;#zl;;;;#NNA;#TA;;;;#NA;#NNNA;#PA;;;;#MA;#YA;#RA;#RRA;#LA;#LLA;#LLLA;#VA;#wf;#SSA;#SA;",
    "#HA"]),
  (0xbbe, ["TAMILpvgAA;$I;$II;$U;$UU;;;;$E;$EE;$AI;;$O;$OO;$AU;!gtc;;;!OM"]),
  (0xbd7, ["TAMIL AU LENGTHoq"]),
  (0xbe6, ["TAMILqerx;#pk;#pj;#of;#pd;#ph;#rt;#pi;#pa;#ql;!revo;#pkon;$op;!DAYg;!MONTHg;!YEARg;",
    "!DEBITg;!CREDITg;!ASig;!RUPEEg;!reg"]),
  (0xc00, ["TELUGUgraqzi;#qz;#qn;#so;#raqni;!aA;#AA;#I;#II;#U;#UU;#qoR;$L;;#E;#EE;#AI;;#O;#OO;",
    "#AU;#KA;#xe;#GA;#GHA;#wd;#CA;#wx;#JA;#JHA;#xa;#zl;#wn;#zm;#wy;#NNA;#TA;#xr;#DA;#zr;#NA;;",
    "#PA;#yp;#BA;#BHA;#MA;#YA;#RA;#RRA;#LA;#LLA;#LLLA;#VA;#wf;#SSA;#SA;#HA;;;!gyb;#wp;!pvgAA;$I;",
    "$II;$U;$UU;$qoR;%RR;;$E;$EE;$AI;;$O;$OO;$AU;!gtc"]),
  (0xc55, ["TELUGU LENGTHoq;!AI LENGTHoq;;!aTSA;#DZA;#RRRA;;;#NAKAARA POLLU;;;#qoRR;$LL;!pvgqoL;",
    "%LL;;;!qerx;#pk;#pj;#of;#pd;#ph;#rt;#pi;#pa;#ql"]),
  (0xc77, ["TELUGUgSIDDHAM;!vlqerxFOR ODD POWERSwhpd;$pkFOR ODD POWERSwhpd;",
    "$pjFOR ODD POWERSwhpd;$ofFOR ODD POWERSwhpd;$pkFOR EVEN POWERSwhpd;$pjFOR EVEN POWERSwhpd;",
    "$ofFOR EVEN POWERSwhpd;!gTUUMU;KANNADAgSPACINGqz;#qz;#qn;#so;#SIDDHAM;!aA;#AA;#I;#II;#U;",
    "#UU;#qoR;$L;;#E;#EE;#AI;;#O;#OO;#AU;#KA;#xe;#GA;#GHA;#wd;#CA;#wx;#JA;#JHA;#xa;#zl;#wn;#zm;",
    "#wy;#NNA;#TA;#xr;#DA;#zr;#NA;;#PA;#yp;#BA;#BHA;#MA;#YA;#RA;#RRA;#LA;#LLA;;#VA;#wf;#SSA;#SA;",
    "#HA;;;!gyb;#wp;!pvgAA;$I;$II;$U;$UU;$qoR;%RR;;$E;$EE;$AI;;$O;$OO;$AU;!gtc"]),
  (0xcd5, ["KANNADA LENGTHoq;!AI LENGTHoq"]),
  (0xcdd, ["KANNADAaNAKAARA POLLU;#FA;;#qoRR;$LL;!pvgqoL;%LL;;;!qerx;#pk;#pj;#of;#pd;#ph;#rt;",
    "#pi;#pa;#ql;;!gJIHVAMULIYA;#UPADHMANIYA"]),
  (0xd00, ["MALAYALAMgraqni;#qz;#qn;#so;!aVEDICqn;#A;#AA;#I;#II;#U;#UU;#qoR;$L;;#E;#EE;#AI;;#O;",
    "#OO;#AU;#KA;#xe;#GA;#GHA;#wd;#CA;#wx;#JA;#JHA;#xa;#zl;#wn;#zm;#wy;#NNA;#TA;#xr;#DA;#zr;#NA;",
    "#NNNA;#PA;#yp;#BA;#BHA;#MA;#YA;#RA;#RRA;#LA;#LLA;#LLLA;#VA;#wf;#SSA;#SA;#HA;#TTTA;!gobrytc;",
    "#CIRCULARtc;#wp;!pvgAA;$I;$II;$U;$UU;$qoR;%RR;;$E;$EE;$AI;;$O;$OO;$AU;!gtc;!apnREPH;!gPARA"]),
  (0xd54, ["MALAYALAMaCHILLU M;$Y;$LLL;!AU LENGTHoq;!vlpkONE-HUNDRED-AND-SIXTIETH;$FORTIETH;",
    "#ofEIGHTIETHS;#pkTWENTIETH;$TENTH;#ofTWENTIETHS;#pkFIFTH;!awoII;#qoRR;$LL;!pvgqoL;%LL;;;",
    "!qerx;#pk;#pj;#of;#pd;#ph;#rt;#pi;#pa;#ql;!revo;#pkon;$op;!vlpkte;$qh;#ofxi;#pkSIXTEENTH;",
    "$vq;#ofSIXTEENTHS;!DATEoq;!aCHILLU NN;$N;$RR;$L;$LL;$K;;SINHALAgqz;#ANUSVARAYA;#VISARGAYA;;",
    "!aAYANNA;#AAYANNA;#AEYANNA;#AEEYANNA;#IYANNA;#IIYANNA;#UYANNA;#UUYANNA;#IRUYANNA;",
    "#IRUUYANNA;#ILUYANNA;#ILUUYANNA;#EYANNA;#EEYANNA;#AIYANNA;#OYANNA;#OOYANNA;#AUYANNA;;;;",
    "#yfKAYANNA;#xjKAYANNA;#yfGAYANNA;#xjGAYANNA;#KANTAJA NAASIKYAYA;#SANYAKA GAYANNA;",
    "#yfCAYANNA;#xjCAYANNA;#yfJAYANNA;#xjJAYANNA;#TAALUJA NAASIKYAYA;$SANYOOGA NAAKSIKYAYA;",
    "#SANYAKA JAYANNA;#yfTTAYANNA;#xjTTAYANNA;#yfDDAYANNA;#xjDDAYANNA;#MUURDHAJA NAYANNA;",
    "#SANYAKA DDAYANNA;#yfTAYANNA;#xjTAYANNA;#yfDAYANNA;#xjDAYANNA;#DANTAJA NAYANNA;;",
    "#SANYAKA DAYANNA;#yfPAYANNA;#xjPAYANNA;#yfBAYANNA;#xjBAYANNA;#MAYANNA;#AMBA BAYANNA;",
    "#YAYANNA;#RAYANNA;;#DANTAJA LAYANNA;;;#VAYANNA;#TAALUJA SAYANNA;#MUURDHAJA SAYANNA;",
    "#DANTAJA SAYANNA;#HAYANNA;#MUURDHAJA LAYANNA;#FAYANNA;;;;!gAL-LAKUNA"]),
  (0xdcf, ["SINHALApvgAELA-PILLA;$KETTI AEDA-PILLA;$DIGA AEDA-PILLA;$KETTI IS-PILLA;",
    "$DIGA IS-PILLA;$KETTI PAA-PILLA;;$DIGA PAA-PILLA;;$GAETTA-PILLA;$KOMBUVA;$DIGA KOMBUVA;",
    "$KOMBU DEKA;$KOMBUVA HAA AELA-PILLA;&DIGA AELA-PILLA;&GAYANUKITTA;$GAYANUKITTA"]),
  (0xde6, ["SINHALA LITHqerx;$pk;$pj;$of;$pd;$ph;$rt;$pi;$pa;$ql;;;!pvgDIGA GAETTA-PILLA;",
    "%GAYANUKITTA;!psKUNDDALIYA"]),
  (0xe01, ["THAI CHARACTER KO KAI;#KHO KHAI;$KHUAT;$KHWAI;$KHON;$RAKHANG;#NGO NGU;#CHO CHAN;",
    "$CHING;$CHANG;#SO SO;#CHO CHOE;#YO YING;#DO CHADA;#vtPATAK;#THO THAN;$NANGMONTHO;$PHUTHAO;",
    "#NO NEN;#DO DEK;#vtTAO;#THO THUNG;$THAHAN;$THONG;#NO NU;#BO BAIMAI;#PO PLA;#PHO PHUNG;",
    "#FO FA;#PHO PHAN;#FO FAN;#PHO SAMPHAO;#MO MA;#YO YAK;#RO RUA;#RU;#LO LING;#LU;#WO WAEN;",
    "#SO SALA;$RUSI;$SUA;#HO HIP;#LO CHULA;#O ANG;#HO NOKHUK;#PAIYANNOI;#SARA A;#MAI HAN-AKAT;",
    "#SARA AA;$AM;$I;$II;$UE;$UEE;$U;$UU;#PHINTHU"]),
  (0xe3f, ["THAI CURRENCYohBAHT;!CHARACTER SARA E;$AE;$O;$AI MAIMUAN;%MAIMALAI;#LAKKHANGYAO;",
    "#MAIYAMOK;#MAITAIKHU;#MAI EK;$THO;$TRI;$CHATTAWA;#THANTHAKHAT;#NIKHAHIT;#YAMAKKAN;#FONGMAN;",
    "!qerx;#pk;#pj;#of;#pd;#ph;#rt;#pi;#pa;#ql;!CHARACTER ANGKHANKHU;#KHOMUT"]),
  (0xe81, ["LAOaKO;#KHO SUNG;;$TAM;;#PALI GHA;#NGO;#CO;#PALIwx;#SO TAM;;#PALI JHA;#NYO;#PALIxa;",
    "$zl;$wn;$zm;$wy;$NNA;#DO;#vt;#THO SUNG;$TAM;#PALIzr;#NO;#BO;#PO;#PHO SUNG;#FO TAM;#PHO TAM;",
    "#FO SUNG;#PALI BHA;#MO;#YO;#LO LING;;$LOOT;;#WO;#SANSKRITwf;$SSA;#SO SUNG;#HO SUNG;",
    "#PALI LLA;#O;#HO TAM;!ELLIPSIS;!pvgA;$MAI KAN;$AA;$AM;$I;$II;$Y;$YY;$U;$UU;!gPALItc;",
    "!pvgMAI KON;!SEMIVOWELgLO;$NYO;;;!pvgE;$EI;$O;$AY;$AI;;!KO LA;;!skMAI EK;$THO;$TI;$CATAWA;",
    "!CANCELLATIONoq;!NIGGAHITA;;;!qerx;#pk;#pj;#of;#pd;#ph;#rt;#pi;#pa;#ql;;;!HO NO;#MO;",
    "!aKHMU GO;$NYO"]),
  (0xf00, ["TIBETANvyOM;!oqGTER YIG MGO TRUNCATED A;&-UM RNAM BCAD MA;(GTER TSHEG MA;",
    "#ocYIG MGO MDUN MA;#CLOSING YIG MGO SGAB MA;#CARET YIG MGO PHUR SHAD MA;",
    "#YIG MGO TSHEG SHAD MA;#SBRUL SHAD;#BSKUR YIG MGO;#BKA- SHOG YIG MGO;#INTERSYLLABIC TSHEG;",
    "#DELIMITER TSHEG BSTAR;#SHAD;#NYIS SHAD;#TSHEG SHAD;#NYIS TSHEG SHAD;#RIN CHEN SPUNGS SHAD;",
    "#RGYA GRAM SHAD;#CARET -DZUD RTAGS MEsjCAN;#GTER TSHEG;!LOGOTYPEgCHAD RTAGS;$LHAG RTAGS;",
    "!ASTROLOGICALgSGRA GCAN -CHAR RTAGS;$-KHYUD PA;$SDONG TSHUGS;!gRDEL DKAR GCIG;%GNYIS;%GSUM;",
    "$NAG GCIG;%GNYIS;$DKAR RDEL NAG;!qerx;#pk;#pj;#of;#pd;#ph;#rt;#pi;#pa;#ql;#qhpk;$pj;$of;",
    "$pd;$ph;$rt;$pi;$pa;$ql;$rx;!oqBSDUS RTAGS;#NGAS BZUNG NYI ZLA;",
    "#CARET -DZUD RTAGS BZHI MIG CAN;#NGAS BZUNG SGOR RTAGS;#CHE MGO;#TSA -PHRU;#GUG RTAGS GYON;",
    "%GYAS;#ANG KHANG GYON;%GYAS;!gYAR TSHES;#MAR TSHES;!aKA;#xe;#GA;#GHA;#wd;#CA;#wx;#JA;;#xa;",
    "#zl;#wn;#zm;#wy;#NNA;#TA;#xr;#DA;#zr;#NA;#PA;#yp;#BA;#BHA;#MA;#TSA;#TSHA;#DZA;#DZHA;#WA;",
    "#ZHA;#ZA;#-A;#YA;#RA;#LA;#wf;#SSA;#SA;#HA;#A;#KSSA;#FIXED-FORM RA;#KKA;#RRA"]),
  (0xf71, ["TIBETANpvgAA;$I;$II;$U;$UU;$qoR;%RR;%L;%LL;$E;$EE;$O;$OO;!gRJES SUwdRO;#RNAM BCAD;",
    "!pvgpgI;%II;!gNYI ZLA NAA DA;#SNA LDAN;!oqHALANTA;#PALUTA;!gLCI RTAGS;#YANG RTAGS;",
    "#LCE TSA CAN;#MCHU CAN;#GRU CAN RGYINGS;$MED RGYINGS;#poMCHU CAN;!SUBJOINEDgLCE TSA CAN;",
    "$MCHU CAN;$poMCHU CAN;#aKA;$xe;$GA;$GHA;$wd;$CA;$wx;$JA;;$xa;$zl;$wn;$zm;$wy;$NNA;$TA;$xr;",
    "$DA;$zr;$NA;$PA;$yp;$BA;$BHA;$MA;$TSA;$TSHA;$DZA;$DZHA;$WA;$ZHA;$ZA;$-A;$YA;$RA;$LA;$wf;",
    "$SSA;$SA;$HA;$A;$KSSA;$FIXED-FORM WA;%YA;%RA;;!KU RUxe;%BZHI MIG CAN;!CANTILLATIONgowBEAT;",
    "$pyBEAT;$CANG TE-U;$SBUB -CHAL;!ohDRIL BU;#RDO RJE;#PADMA GDAN;#RDO RJE RGYA GRAM;#PHUR PA;",
    "#NOR BU;%NYIS -KHYIL;%GSUM -KHYIL;%BZHI -KHYIL;;!gRDEL NAG RDEL DKAR;%GSUM;",
    "!oqBSKA- SHOG GI MGO RGYAN;#MNYAM YIG GI MGO RGYAN;#NYIS TSHEG;",
    "#ocBRDA RNYING YIG MGO MDUN MA;#CLOSING BRDA RNYING YIG MGO SGAB MA;RIGHT-FACING SVASTIg;",
    "LEFT-FACING SVASTIg;RIGHT-FACING SVASTIgbqy;LEFT-FACING SVASTIgbqy;",
    "TIBETANoqLEADING MCHAN RTAGS;#TRAILING MCHAN RTAGS"])]

end Tweaks.Text
