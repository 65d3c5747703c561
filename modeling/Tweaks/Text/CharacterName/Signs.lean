/-!
# Names of marks, arrows, shapes, glyphs and other signs

The names that Unicode gives to characters, run by run: each after the other from the first one
of the run.  A mark at the start of a name says how many words it has in common with the one
before it, and small letters stand for common words.
-/

namespace Tweaks.Text

/-- The names of marks, arrows, shapes and other signs. -/
def signNames : List (Nat × List String) := [
  (0x2000, ["EN QUAD;EM QUAD;ENzc;EMzc;THREE-PER-EMzc;FOUR-PER-EMzc;SIX-PER-EMzc;FIGUREzc;pszc;",
    "THINzc;HAIRzc;rxWIDTHzc;#NON-JOINER;#JOINER;LEFT-TO-RIGHToq;RIGHT-TO-LEFToq;HYPHEN;",
    "NON-BREAKING HYPHEN;FIGUREwt;ENwt;EMwt;oiry;lobtq;!uotq;odqrrwoq;hqrrwoq;qrLOW-9rwoq;",
    "!HIGH-REVERSED-9rwoq;odlrwoq;hlrwoq;lLOW-9rwoq;!HIGH-REVERSED-9rwoq;DAGGER;lDAGGER;BULLET;",
    "sxBULLET;pkpnLEADER;pjpnLEADER;oiELLIPSIS;HYPHENATION POINT;tqtf;PARAGRAPHtf;",
    "LEFT-TO-RIGHT EMBEDDING;RIGHT-TO-LEFT EMBEDDING;POP DIRECTIONAL FORMATTING;",
    "LEFT-TO-RIGHT OVERRIDE;RIGHT-TO-LEFT OVERRIDE;NARROW NO-BREAKzc;PER MILLEg;!voopg;PRIME;",
    "lPRIME;shPRIME;pgPRIME;!lPRIME;!shPRIME;CARET;qrrssyrwoq;!qusyrwoq;REFERENCEoq;lrpoq;",
    "INTERROBANG;OVERLINE;UNDERTIE;CHARACTER TIE;CARET INSERTION POINT;ASTERISM;HYPHEN BULLET;",
    "vlSLASH;odoyorbQUILL;hoyorbQUILL;lsvoq;svrpoq;rpsvoq;TIRONIANgET;pgPILCROWg;okoaBULLET;",
    "!kBULLET;uoqv;pgxy;CLOSEyt;pjASTERISKS ALIGNED VERTICALLY;COMMERCIAL MINUSg;SWUNGwt;",
    "poUNDERTIE;FLOWERpsoq;ofpnps;yqPRIME;pdpnps;phpnps;pjpnps;pdpnoq;tmtt;TRICOLON;obpdqy;",
    "pqwmzc;WORD JOINER;FUNCTION APPLICATION;INVISIBLEpb;!tf;!qb;;LEFT-TO-RIGHT ISOLATE;",
    "RIGHT-TO-LEFT ISOLATE;FIRST STRONG ISOLATE;POP DIRECTIONAL ISOLATE;",
    "INHIBIT SYMMETRIC SWAPPING;ACTIVATE SYMMETRIC SWAPPING;INHIBITvpeSHAPING;",
    "ACTIVATEvpeSHAPING;NATIONALqeSHAPES;NOMINALqeSHAPES;vnrx;!szdaI;;;!pd;!ph;!rt;!pi;!pa;!ql;",
    "!qbg;!MINUS;!uag;!odpu;!hpu;!szdaN;SUBSCRIPTrx;!pk;!pj;!of;!pd;!ph;!rt;!pi;!pa;!ql;!qbg;",
    "!MINUS;!uag;!odpu;!hpu;;szSUBSCRIPTdaA;%E;%O;%X;%SCHWA;%H;%K;%L;%M;%N;%P;%S;%T;;;;",
    "EURO-CURRENCYg;wgg;CRUZEIROg;FRENCH FRANCg;LIRAg;MILLg;NAIRAg;PESETAg;RUPEEg;WONg;",
    "NEW SHEQELg;DONGg;EUROg;KIPg;TUGRIKg;DRACHMAg;GERMAN PENNYg;PESOg;GUARANIg;AUSTRALg;",
    "HRYVNIAg;CEDIg;LIVRE TOURNOISg;SPESMILOg;TENGEg;INDIAN RUPEEg;TURKISH LIRAg;NORDICoqg;",
    "MANATg;RUBLEg;LARIg;BITCOINg;SOMg"]),
  (0x20d0, ["raodqsi;!hqsi;!sjobtqvh;!tdobtqvh;!sgfi;!xdfi;!odfi;!hfi;!rmvh;!xdrmvh;!sgrmvh;",
    "!ofqyi;!pdqyi;!ENCLOSINGpc;#oy;#rz;#pcBACKSLASH;!odhfi;!ENCLOSING SCREEN;#KEYCAP;",
    "#UPWARDppot;!wcvcvh;!lobogvh;!ANNUITYoh;!shUNDERDOT;!WIDE BRIDGEi;!oafvh;!sjlvcvh;",
    "!kqsbrroo;!oaqsbrroo;!odfm;!hfm;!qvi"]),
  (0x2100, ["ACCOUNTwh;ADDRESSEDvtTHE SUBJECT;vgcC;DEGREE CELSIUS;rltqoh;CAREwh;CADA UNA;",
    "EULER CONSTANT;SCRUPLE;DEGREE FAHRENHEIT;widG;!cH;BLACK-LETTERcH;vgcH;PLANCK CONSTANT;",
    "#rfpjPI;wicI;BLACK-LETTERcI;wicL;!dL;L Bryoh;vgcN;NUMEROg;SOUND RECORDING COPYRIGHT;wicP;",
    "vgcP;#Q;wicR;BLACK-LETTERcR;vgcR;PRESCRIPTION TAKE;RESPONSE;SERVICEoq;xzg;TRADEoqg;",
    "VERSICLE;vgcZ;OUNCEg;OHMg;poOHMg;BLACK-LETTERcZ;pzxvdayx;KELVINg;ANGSTROMg;wicB;",
    "BLACK-LETTERcC;ESTIMATEDoh;widE;!cE;#F;pzcF;wicM;!dO;rjoh;BEToh;GIMELoh;DALEToh;",
    "INFORMATION SOURCE;qicQ;FACSIMILEg;vgdPI;#za;!cza;#PI;!N-ARY SUMMATION;pzsqcG;$L;pgsqcL;",
    "pzsqcY;vgITALICcD;#dD;$E;$I;$J;PROPERTYtq;pzAMPERSAND;PERg;AKTIESELSKAB;pzdF;",
    "ohFOR SAMARITAN SOURCE;VULGARvlpkSEVENTH;$NINTH;$TENTH;$THIRD;#pjTHIRDS;#pkFIFTH;#pjFIFTHS;",
    "#ofFIFTHS;#pdFIFTHS;#pkSIXTH;#phSIXTHS;#pkvq;#ofyn;#phyn;#piyn;vlNUMERATORpk;",
    "ROMAN NUMERALpk;#pj;#of;#pd;#ph;#rt;#pi;#pa;#ql;#vo;#ELEVEN;#TWELVE;#wb;#pkon;#phon;#pkop;",
    "dROMAN NUMERALpk;$pj;$of;$pd;$ph;$rt;$pi;$pa;$ql;$vo;$ELEVEN;$TWELVE;$wb;$pkon;$phon;$pkop;",
    "ROMAN NUMERALpkopC D;#phop;#voop;#pgpkon;szdapgC;ROMAN NUMERALrtLATEe;#wbEARLYe;$op;",
    "#pkonop;VULGARvlrxTHIRDS;pzqepj;#of"]),
  (0x2190, ["oaf;pff;kf;oof;odhf;ytqjf;tpuwf;!tzf;uktzf;!uwf;oafbog;kfbog;oaWAVEf;kWAVEf;",
    "oapjHEADEDf;pfpjHEADEDf;kpjHEADEDf;oopjHEADEDf;oafbus;kfbus;oafyvry;pffyvry;kfyvry;oofyvry;",
    "ytqjfbBASE;oafbpe;kfbpe;oafbLOOP;kfbLOOP;odhWAVEf;#fbog;ooZIGZAGf;pffbTIPoa;%k;oofbTIPoa;",
    "%k;kfbunoo;oofbunoa;sgTOP SEMICIRCLEf;xdTOP SEMICIRCLEf;tpuwfvtsjry;oafvtryrfkfvtry;",
    "sgsepcf;xdsepcf;oaqsbrrpf;%oo;pfqsbrrk;%oa;kqsbrrpf;%oo;ooqsbrrk;%oa;kfrfoaf;pffoawhoof;",
    "oafrfkf;!PAIREDzq;pfPAIREDzq;kPAIREDzq;ooPAIREDzq;oaqsrfkqs;kqsrfoaqs;oalfbog;odhlfbog;",
    "klfbog;oalf;pflf;klf;oolf;odhlf;ytqjlf;tpuwlf;!tzlf;uktzlf;!uwlf;oashf;kshf;oaSQUIGGLEf;",
    "kSQUIGGLEf;pffblog;oofblog;oaDASHEDf;pfDASHEDf;kDASHEDf;ooDASHEDf;oafvtry;kfvtry;oaolf;",
    "pfolf;kolf;ooolf;pfolfyvry;$ON PEDESTAL;&boiry;(obry;#lf;%ON PEDESTAL;kolfyvWALL;tpuwfvtun;",
    "uktzfvtun;ytqjolf;hfbdpc;oofoawhpff;ofkzq;oafbobog;kfbobog;odhfbobog;oafblobog;kfblobog;",
    "odhfblobog;oaOPEN-HEADEDf;kOPEN-HEADEDf;odhOPEN-HEADEDf;FOR ALL;COMPLEMENT;",
    "PARTIAL DIFFERENTIAL;THERE EXISTS;!DOESxxEXIST;EMPTY SET;INCREMENT;NABLA;ELEMENTwh;",
    "xxAN ELEMENTwh;dELEMENTwh;CONTAINS AS MEMBER;DOESxxCONTAIN AS MEMBER;dCONTAINS AS MEMBER;",
    "ENDwhPROOF;N-ARY PRODUCT;!COPRODUCT;!SUMMATION;MINUSg;MINUS-OR-PLUSg;pnqb;DIVISION SLASH;",
    "SET MINUS;qvrg;rmrg;BULLETrg;oyROOT;CUBE ROOT;FOURTH ROOT;PROPORTIONALvt;INFINITY;hsy;sy;",
    "MEASUREDsy;SPHERICALsy;DIVIDES;DOESxxDIVIDE;PARALLELvt;xxPARALLELvt;zyoj;!OR;tg;UNION;vm;",
    "lvm;shvm;CONTOURvm;SURFACEvm;VOLUMEvm;xdvm;!CONTOURvm;sgCONTOURvm;THEREFORE;BECAUSE;RATIO;",
    "PROPORTION;pnMINUS;EXCESS;GEOMETRIC PROPORTION;HOMOTHETIC;qcrg;pgqc;poLAZY S;SINE WAVE;",
    "WREATH PRODUCT;xxqc;MINUSqc;ASYMPTOTICALLYpwvt;xxASYMPTOTICALLYpwvt;APPROXIMATELYpwvt;",
    "!BUTxxACTUALLYpwvt;NEITHER APPROXIMATELY NOR ACTUALLYpwvt;zppwvt;xxzppwvt;zppwORpwvt;shqc;",
    "ALLpwvt;vfvt;GEOMETRICALLYvfvt;DIFFERENCExm;APPROACHES THE LIMIT;GEOMETRICALLYpwvt;",
    "APPROXIMATELYpwvtOR THE IMAGEwh;IMAGEwhOR APPROXIMATELYpwvt;wgua;uawg;rmINpwvt;!pwvt;",
    "CORRESPONDSvt;ESTIMATES;EQUIANGULARvt;ulua;DELTApwvt;pwvtBY DEFINITION;MEASURED BY;",
    "QUESTIONEDpwvt;xxpwvt;IDENTICALvt;xxIDENTICALvt;STRICTLYvfvt;plORpwvt;ovORpwvt;plrfpwvt;",
    "ovrfpwvt;plBUTxxpwvt;ovBUTxxpwvt;MUCHpl;!ov;xm;xxvfvt;!pl;!ov;NEITHERplNORpwvt;!ovNORpwvt;",
    "plORvfvt;ovORvfvt;NEITHERplNORvfvt;!ovNORvfvt;plORov;ovORpl;NEITHERplNORov;!ovNORpl;yj;yl;",
    "yjORpwvt;ylORpwvt;yjORvfvt;ylORvfvt;DOESxxPRECEDE;#SUCCEED;vxwh;ucwh;xxAvxwh;#ucwh;",
    "vxwhORpwvt;ucwhORpwvt;NEITHER AvxwhNORpwvt;#ucwhNORpwvt;vxwhbxxpwvt;ucwhbxxpwvt;MULTISET;",
    "!ur;!UNION;oyIMAGEwh;!ORIGINALwh;!IMAGEwhORpwvt;!ORIGINALwhORpwvt;!CAP;!CUP;qxqb;!MINUS;",
    "!pb;!DIVISION SLASH;!pnrg;!rmrg;!qvrg;!ua;!wt;snqb;!MINUS;!pb;!pnrg;hyh;odyh;qjyh;ytyh;",
    "ASSERTION;MODELS;TRUE;FORCES;shobryhTURNSTILE;lobrylhTURNSTILE;DOESxxPROVE;xxTRUE;",
    "DOESxxFORCE;NEGATEDlobrylhTURNSTILE;yjUNDER RELATION;ylUNDER RELATION;NORMAL SUBGROUPwh;",
    "CONTAINS AS NORMAL SUBGROUP;NORMAL SUBGROUPwhORpwvt;CONTAINS AS NORMAL SUBGROUP ORpwvt;",
    "ORIGINALwh;IMAGEwh;MULTIMAP;HERMITIAN CONJUGATE MATRIX;INTERCALATE;XOR;NAND;NOR;hsybARC;",
    "!ot;N-ARYzyoj;#OR;!tg;!UNION;rzrg;pnrg;ulrg;DIVISIONpb;BOWTIE;",
    "odNORMAL FACTOR SEMIDIRECT PRODUCT;hNORMAL FACTOR SEMIDIRECT PRODUCT;odSEMIDIRECT PRODUCT;",
    "hSEMIDIRECT PRODUCT;pgqcua;xszyOR;#oj;lvx;!uc;!tg;!UNION;PITCHFORK;pwojPARALLELvt;plbpn;",
    "ovbpn;VERY MUCHpl;#ov;plpwvtORov;ovpwvtORpl;pwvtORpl;$ov;$yj;$yl;DOESxxPRECEDE ORpw;",
    "#SUCCEED ORpw;xxoyIMAGEwhORpwvt;#ORIGINALwhORpwvt;oyIMAGEwhORxxpwvt;!ORIGINALwhORxxpwvt;",
    "plBUTxxvfvt;ovBUTxxvfvt;yjBUTxxvfvt;ylBUTxxvfvt;xxNORMAL SUBGROUPwh;",
    "DOESxxCONTAIN AS NORMAL SUBGROUP;xxNORMAL SUBGROUPwhORpwvt;",
    "DOESxxCONTAIN AS NORMAL SUBGROUP ORpw;obELLIPSIS;MIDLINEoiELLIPSIS;ythrbELLIPSIS;",
    "qjhrbELLIPSIS;ELEMENTwhbsjoiog;$obryAT ENDwhoiog;dELEMENTwhbobryAT ENDwhoiog;ELEMENTwhbpni;",
    "$OVERBAR;dELEMENTwhbOVERBAR;ELEMENTwhbtr;$pjoiSTROKES;CONTAINSbsjoiog;#obryAT ENDwhoiog;",
    "dCONTAINSbobryAT ENDwhoiog;CONTAINSbOVERBAR;dCONTAINSbOVERBAR;Z NOTATION BAG MEMBERSHIP;",
    "DIAMETERg;ELECTRICf;HOUSE;ytoz;qjoz;PROJECTIVE;PERSPECTIVE;WAVYtq;odCEILING;hCEILING;",
    "odFLOOR;hFLOOR;umhCROP;!odCROP;TOPhCROP;!odCROP;pgxxg;oyzz;ARC;SEGMENT;SECTOR;xzRECORDER;",
    "POSITION INDICATOR;VIEWDATAoy;PLACEwhINTERESTg;pzxxg;WATCH;HOURGLASS;TOPodun;!hun;umodun;",
    "!hun;TOPqhvm;umqhvm;FROWN;SMILE;ytozxmpjoiBARS;OPTION KEY;ERASEvtTHEh;X IN A RECTANGLE BOX;",
    "KEYBOARD;rssyor;qusyor;ERASEvtTHEod;BENZENErm;CYLINDRICITY;ALL AROUND-PROFILE;SYMMETRY;",
    "TOTAL RUNOUT;DIMENSION ORIGIN;CONICAL TAPER;SLOPE;COUNTERBORE;COUNTERSINK;",
    "APL FUNCTIONALohI-BEAM;$SQUISH QUAD;$QUADpw;%DIVIDE;%rz;%JOT;%pc;$pcSTILE;%JOT;$SLASHry;",
    "$BACKSLASHry;$QUAD SLASH;%BACKSLASH;%pl;%ov;$oaVANE;$kVANE;$QUADoaf;%kf;$pcBACKSLASH;",
    "$qjyhtr;$DELTA STILE;$QUADqjCARET;%DELTA;$qjyhJOT;$pfVANE;$QUADpff;$ytyhOVERBAR;$DEL STILE;",
    "$QUADytCARET;%DEL;$ytyhJOT;$ooVANE;$QUADoof;$QUOTEtr;$DELTAtr;$rztr;$JOTtr;$pctr;",
    "$ytSHOE JOT;$QUOTE QUAD;$pcul;$QUADwg;$ytyhox;$DELox;$ulox;$JOTox;$pcox;$qjSHOE STILE;",
    "$odSHOE STILE;$qcox;$ovox;$sbry;$DELqc;$ZILDE;$STILEqc;$xytr;$QUADxxpw;%sv;$qjCARETqc;",
    "$ytCARETqc;$yx;$RHO;$ux;$watr;$uptr;$yxtr;$uxtr;$wa;xxCHECKoq;hsybooZIGZAGf;",
    "SHOULDEREDseBOX;BELLoh;obtqbompn;INSERTIONoh;CONTINUOUS UNDERLINEoh;",
    "DISCONTINUOUS UNDERLINEoh;EMPHASISoh;COMPOSITIONoh;oloybrlobtq;ENTERoh;ALTERNATIVE KEYoh;",
    "HELMoh;qxoirybNOTCH;!otqj;BROKENpcbNORTHWESTf;UNDOoh;MONOSTABLEoh;HYSTERESISoh;",
    "OPEN-CIRCUIT-OUTPUT H-TYPEoh;!L-TYPEoh;PASSIVE-PULL-DOWN-OUTPUToh;PASSIVE-PULL-UP-OUTPUToh;",
    "DIRECT CURRENTohepj;SOFTWARE-FUNCTIONoh;APL FUNCTIONALohQUAD;DECIMALtfKEYoh;PREVIOUS PAGE;",
    "NEXT PAGE;PRINT SCREENoh;CLEAR SCREENoh;odpuqwpe;#EXTENSION;#qfpe;hpuqwpe;#EXTENSION;#qfpe;",
    "odoyorqwun;$EXTENSION;$qfun;hoyorqwun;$EXTENSION;$qfun;odxsorqwpe;$omPIECE;$qfpe;",
    "xsorEXTENSION;hxsorqwpe;$omPIECE;$qfpe;vmEXTENSION;oitqEXTENSION;qwodORqfhxsorvb;",
    "!hORqfodxsorvb;SUMMATION TOP;!um;TOPoyor;umoyor;$rfTOPoyor;RADICALohum;odobBOXtq;hobBOXtq;",
    "oiSCAN LINE-1;#LINE-3;#LINE-7;#LINE-9;DENTISTRYohpyobojTOPh;&umh;%bpc;$qjojoibpc;",
    "$ytojoibpc;$obbot;$qjojoibot;$ytojoibot;$obojWAVE;$qjojoibWAVE;$ytojoibWAVE;$qjojoi;",
    "$ytojoi;$obojTOPod;&umod;oyFOOT;RETURNoh;EJECToh;obtqEXTENSION;METRICALsp;!sjrftd;!tdrfsj;",
    "!sjrfpjSHORTS;!pjSHORTSrfsj;$JOINED;!TRISEME;!TETRASEME;!PENTASEME;EARTH GROUND;FUSE;TOPpu;",
    "umpu;TOPxsor;umxsor;TOPvzymor;umvzymor;olTRAPEZIUM;BENZENErmbpc;STRAIGHTNESS;FLATNESS;",
    "AC CURRENT;ELECTRICALtg;DECIMAL EXPONENToh;okqulot;!rslot;!uylot;!uqlot;!qulotbobry;",
    "!rslotbobry;!quotblobry;ALARM CLOCK;STOPWATCH;TIMER CLOCK;HOURGLASSbFLOWING SAND;okpqrsot;",
    "#quot;#uyot;#uqot;lobry;okoyFORta;!pcFOR RECORD;POWERoh;!ON-OFFoh;!ONoh;!SLEEPoh;",
    "OBSERVER EYEoh;ohFOR NULL;#STARTwhHEADING;%TEXT;#ENDwhTEXT;%TRANSMISSION;#ENQUIRY;",
    "#ACKNOWLEDGE;#BELL;#BACKSPACE;#oiTABULATION;#tqFEED;#obTABULATION;#eFEED;#CARRIAGE RETURN;",
    "#SHIFT OUT;$IN;#DATA LINK ESCAPE;#DEVICE CONTROLpk;%pj;%of;%pd;#xfACKNOWLEDGE;",
    "#SYNCHRONOUS IDLE;#ENDwhTRANSMISSIONsi;#CANCEL;#ENDwhpq;#SUBSTITUTE;#ESCAPE;#FILEtf;",
    "#GROUPtf;#RECORDtf;#UNITtf;#zc;#DELETE;BLANKoh;seBOX;ohFOR NEWLINE;#DELETEepj;",
    "#SUBSTITUTEepj"]),
  (0x2440, ["OCRpe;!CHAIR;!FORK;!poFORK;!BELT BUCKLE;!BOW TIE;!BRANCH BANK IDENTIFICATION;",
    "!AMOUNTwhCHECK;!wt;!CUSTOMER ACCOUNTre;!lBACKSLASH"]),
  (0x2460, ["qxqepk;#pj;#of;#pd;#ph;#rt;#pi;#pa;#ql;!revo;#ELEVEN;#TWELVE;#THIRTEEN;#FOURTEEN;",
    "#FIFTEEN;#SIXTEEN;#SEVENTEEN;#EIGHTEEN;#NINETEEN;#tb;PARENTHESIZEDqepk;#pj;#of;#pd;#ph;#rt;",
    "#pi;#pa;#ql;!revo;#ELEVEN;#TWELVE;#THIRTEEN;#FOURTEEN;#FIFTEEN;#SIXTEEN;#SEVENTEEN;",
    "#EIGHTEEN;#NINETEEN;#tb;qepkveta;!pjveta;!ofveta;!pdveta;!phveta;!rtveta;!piveta;!paveta;",
    "!qlveta;revoveta;!ELEVENveta;!TWELVEveta;!THIRTEENveta;!FOURTEENveta;!FIFTEENveta;",
    "!SIXTEENveta;!SEVENTEENveta;!EIGHTEENveta;!NINETEENveta;!tbveta;PARENTHESIZEDszdaA;%B;%C;",
    "%D;%E;%F;%G;%H;%I;%J;%K;%L;%M;%N;%O;%P;%Q;%R;%S;%T;%U;%V;%W;%X;%Y;%Z;qxszcaA;%B;%C;%D;%E;",
    "%F;%G;%H;%I;%J;%K;%L;%M;%N;%O;%P;%Q;%R;%S;%T;%U;%V;%W;%X;%Y;%Z;#daA;%B;%C;%D;%E;%F;%G;%H;",
    "%I;%J;%K;%L;%M;%N;%O;%P;%Q;%R;%S;%T;%U;%V;%W;%X;%Y;%Z;!qerx;xfqxreELEVEN;$TWELVE;$THIRTEEN;",
    "$FOURTEEN;$FIFTEEN;$SIXTEEN;$SEVENTEEN;$EIGHTEEN;$NINETEEN;$tb;lqxqepk;$pj;$of;$pd;$ph;$rt;",
    "$pi;$pa;$ql;#revo;xfqxqerx;BOX DRAWINGSpyoi;#owoi;#pyob;#owob;#pyshwtoi;#owshwtoi;",
    "#pyshwtob;#owshwtob;#pyyqwtoi;#owyqwtoi;#pyyqwtob;#owyqwtob;#pyqjojh;#qjpyojhow;$owojhpy;",
    "#owqjojh;#pyqjojod;#qjpyojodow;$owojodpy;#owqjojod;#pyytojh;#ytpyojhow;$owojhpy;#owytojh;",
    "#pyytojod;#ytpyojodow;$owojodpy;#owytojod;#pyobojh;#obpyojhow;#ytowojhqjpy;#qjowojhytpy;",
    "#obowojhpy;#qjpyojhytow;#ytpyojhqjow;#owobojh;#pyobojod;#obpyojodow;#ytowojodqjpy;",
    "#qjowojodytpy;#obowojodpy;#qjpyojodytow;#ytpyojodqjow;#owobojod;#pyqjojoi;#odowojhqjpy;",
    "#howojodqjpy;#qjpyojoiow;$owojoipy;#hpyojodqjow;#odpyojhqjow;#owqjojoi;#pyytojoi;",
    "#odowojhytpy;#howojodytpy;#ytpyojoiow;$owojoipy;#hpyojodytow;#odpyojhytow;#owytojoi;",
    "#pyobojoi;#odowojhobpy;#howojodobpy;#obpyojoiow;#ytowojqjoipy;#qjowojytoipy;#obowojoipy;",
    "#odytowojhqjpy;#hytowojodqjpy;#odqjowojhytpy;#hqjowojodytpy;#qjpyojytoiow;#ytpyojqjoiow;",
    "#hpyojodobow;#odpyojhobow;#owobojoi;#pylwtoi;#owlwtoi;#pylwtob;#owlwtob;#loi;$ob;#qjqrojhl;",
    "$lojhqr;#lqjojh;#qjqrojodl;$lojodqr;#lqjojod;#ytqrojhl;$lojhqr;#lytojh;#ytqrojodl;$lojodqr;",
    "#lytojod;#obqrojhl;$lojhqr;#lobojh;#obqrojodl;$lojodqr;#lobojod;#qjqrojoil;$lojoiqr;",
    "#lqjojoi;#ytqrojoil;$lojoiqr;#lytojoi;#obqrojoil;$lojoiqr;#lobojoi;#pyARCqjojh;(od;%ytojod;",
    "(h;$rbqwhvtqfod;&odvtqfh;%tt;$od;$yt;$h;$qj;#owod;$yt;$h;$qj;#pyodojowh;$ytojowqj;",
    "#owodojpyh;$ytojpyqj;qwqhsi;qfpkvqsi;#tesi;!ofynsi;!qhsi;!phynsi;!ofxisi;!piynsi;vesi;",
    "odpiynsi;!ofxisi;!phynsi;!qhsi;!ofynsi;!pktesi;#vqsi;hqhsi;pySHADE;pqSHADE;DARK SHADE;",
    "qwpkvqsi;hpkvqsi;xhqfod;#h;!qwod;$ojqfodojqfh;&h;%qwhojqfod;*h;#h;$ojqfod;(ojqfh;okoy;oloy;",
    "#bROUNDED CORNERS;#CONTAININGokdoy;oyboiFILL;#obFILL;#ORTHOGONAL CROSSHATCH FILL;",
    "#qwodvtqfhFILL;$hvtqfodFILL;#rbCROSSHATCH FILL;okdoy;oldoy;okRECTANGLE;olRECTANGLE;",
    "okobRECTANGLE;olobRECTANGLE;okPARALLELOGRAM;olPARALLELOGRAM;okuyot;oluyot;okuydot;oluydot;",
    "okquot;olquot;okqudot;olqudot;okquPOINTER;olquPOINTER;okuqot;oluqot;okuqdot;oluqdot;okrsot;",
    "olrsot;okrsdot;olrsdot;okrsPOINTER;olrsPOINTER;okrz;olrz;#CONTAININGokdrz;FISHEYE;zz;olpc;",
    "tmpc;pcbobFILL;BULLSEYE;okpc;pcbodqhok;#hqhok;#qfqhok;#qwqhok;$hxhok;#ALL BUTqwodxhok;",
    "odqhokpc;hqhokpc;INVERSE BULLET;!olpc;qwqhINVERSEolpc;qfqhINVERSEolpc;qwodxhCIRCULAR ARC;",
    "!hxhCIRCULAR ARC;qfhxhCIRCULAR ARC;!odxhCIRCULAR ARC;qwqhpc;qfqhpc;okqfhot;#odot;!qwodot;",
    "#hot;olBULLET;oybodqhok;#hqhok;#qwodrbqhok;#qfhrbqhok;oloybobBISECTINGtq;!uyotbpn;",
    "uyotbodqhok;$hqhok;rnpc;oloybqwodxh;$qfodxh;%hxh;$qwhxh;!pcbqwodxh;$qfodxh;%hxh;$qwhxh;",
    "qwodot;!hot;qfodot;olpqoy;okpqoy;olpqdoy;okpqdoy;qfhot;okSUNbRAYS;CLOUD;UMBRELLA;SNOWMAN;",
    "COMET;okul;olul;LIGHTNING;THUNDERSTORM;SUN;ASCENDING NODE;DESCENDING NODE;CONJUNCTION;",
    "OPPOSITION;okxz;olxz;BALLOT BOX;#bCHECK;$X;SALTIRE;UMBRELLAbRAIN DROPS;HOT BEVERAGE;",
    "olSHOGI PIECE;okSHOGI PIECE;SHAMROCK;pgqiFLORALwwBULLET;okodpppx;!hpppx;olodpppx;!ytpppx;",
    "!hpppx;!qjpppx;SKULLojCROSSBONES;CAUTIONg;RADIOACTIVEg;BIOHAZARDg;CADUCEUS;ANKH;ORTHODOXtt;",
    "CHI RHO;ttwhLORRAINE;#JERUSALEM;ulojCRESCENT;FARSIoh;ADI SHAKTI;HAMMERojSICKLE;PEACEoh;",
    "YIN YANG;TRIGRAM FOR HEAVEN;#LAKE;#FIRE;#THUNDER;#WIND;#WATER;#MOUNTAIN;#EARTH;",
    "WHEELwhDHARMA;olFROWNINGqp;!xpqp;okxpqp;olSUNbRAYS;FIRSTteMOON;LASTteMOON;MERCURY;FEMALEg;",
    "EARTH;MALEg;JUPITER;SATURN;URANUS;NEPTUNE;PLUTO;ARIES;TAURUS;GEMINI;CANCER;LEO;VIRGO;LIBRA;",
    "SCORPIUS;SAGITTARIUS;CAPRICORN;AQUARIUS;PISCES;olweKING;#QUEEN;#ROOK;#BISHOP;#vj;#PAWN;",
    "okweKING;#QUEEN;#ROOK;#BISHOP;#vj;#PAWN;!SPADE SUIT;olwwSUIT;!rzSUIT;okCLUB SUIT;",
    "olSPADE SUIT;okwwSUIT;!rzSUIT;olCLUB SUIT;HOT SPRINGS;teNOTE;vqNOTE;BEAMEDvqNOTES;",
    "!SIXTEENTH NOTES;MUSIC FLATg;!NATURALg;!SHARPg;uwSYRIACtt;tzSYRIACtt;UNIVERSAL RECYCLINGoh;",
    "RECYCLINGohFOR TYPE-1 PLASTICS;$TYPE-2 PLASTICS;$TYPE-3 PLASTICS;$TYPE-4 PLASTICS;",
    "$TYPE-5 PLASTICS;$TYPE-6 PLASTICS;$TYPE-7 PLASTICS;$GENERIC MATERIALS;",
    "okUNIVERSAL RECYCLINGoh;RECYCLED PAPERoh;PARTIALLY-RECYCLED PAPERoh;PERMANENT PAPERg;",
    "WHEELCHAIRoh;DIE FACE-1;!FACE-2;!FACE-3;!FACE-4;!FACE-5;!FACE-6;olpcbpnh;$pjqy;okpcbolpnh;",
    "$pjolqy;MONOGRAM FOR YANG;#YIN;DIGRAM FOR GREATER YANG;#LESSER YIN;$YANG;#GREATER YIN;",
    "olFLAG;okFLAG;HAMMERojPICK;ANCHOR;zwSWORDS;STAFFwhAESCULAPIUS;SCALES;ALEMBIC;FLOWER;GEAR;",
    "STAFFwhHERMES;ATOMoh;FLEUR-DE-LIS;OUTLINEDolul;ofLINES CONVERGINGh;$od;WARNINGg;stVOLTAGEg;",
    "DOUBLED FEMALEg;!MALEg;INTERLOCKED FEMALEojMALEg;MALEojFEMALEg;!bogg;$ojMALEojFEMALEg;",
    "obMALEbogg;oiMALEbogg;pqolpc;!okpc;!dolpc;MARRIAGEoh;DIVORCEoh;UNMARRIED PARTNERSHIPoh;",
    "COFFIN;FUNERAL URN;NEUTER;CERES;PALLAS;JUNO;VESTA;CHIRON;okMOON LILITH;SEXTILE;SEMISEXTILE;",
    "QUINCUNX;SESQUIQUADRATE;SOCCER BALL;BASEBALL;snKEY;olDRAUGHTS MAN;#KING;okDRAUGHTS MAN;",
    "#KING;SNOWMAN WITHOUT SNOW;SUN BEHIND CLOUD;RAIN;okSNOWMAN;THUNDER CLOUDojRAIN;",
    "pzolSHOGI PIECE;!okSHOGI PIECE;olrzINoy;slLANES;DISABLED CAR;OPHIUCHUS;PICK;CAR SLIDING;",
    "HELMETboltt;qxslLANES;CHAINS;NO ENTRY;tjONE-WAYodWAY TRAFFIC;okTWO-WAYodWAY TRAFFIC;",
    "olTWO-WAYodWAY TRAFFIC;okodLANE MERGE;olodLANE MERGE;DRIVE SLOWg;owoluqot;odtyENTRY;",
    "snSALTIRE;FALLINGrbINolpcINokoy;okTRUCK;RESTRICTEDodENTRY-1;#ENTRY-2;",
    "ASTRONOMICALohFOR URANUS;owpcbogojpjqyi;PENTAGRAM;RIGHT-HANDED INTERLACED PENTAGRAM;",
    "LEFT-HANDED INTERLACED PENTAGRAM;poPENTAGRAM;okttON SHIELD;SHINTO SHRINE;CHURCH;CASTLE;",
    "HISTORIC SITE;GEAR WITHOUT HUB;!bHANDLES;MAPohFOR LIGHTHOUSE;MOUNTAIN;UMBRELLA ON GROUND;",
    "FOUNTAIN;FLAG IN HOLE;FERRY;SAILBOAT;oypdCORNERS;SKIER;ICE SKATE;ztbBALL;TENT;",
    "JAPANESE BANKoh;HEADSTONE GRAVEYARDoh;FUEL PUMP;CUP ONokoy;olFLAGboiomokSTRIPE;",
    "okSAFETY SCISSORS;qwBLADE SCISSORS;okSCISSORS;qfBLADE SCISSORS;olSCISSORS;!owCHECKoq;",
    "xzLOCATIONg;TAPE DRIVE;AIRPLANE;ENVELOPE;vwFIST;!yw;VICTORYyw;WRITINGyw;qfhPENCIL;PENCIL;",
    "qwhPENCIL;olNIB;okNIB;CHECKoq;owCHECKoq;urX;owurX;BALLOT X;owBALLOT X;OUTLINEDxvtt;owxvtt;",
    "serltt;owserltt;sztt;ykolsztt;OUTLINEDsztt;MALTESEtt;ulwhDAVID;pdxlqv;!BALLOON-SPOKEDqv;",
    "owpdBALLOON-SPOKEDqv;pdCLUB-SPOKEDqv;okpdssul;olpdssul;SPARKLES;STRESS OUTLINEDolul;qxolul;",
    "serlokul;okrlolul;OUTLINEDokul;owOUTLINEDokul;PINWHEELul;ykolul;owqv;serlqv;paysqv;!ssokul;",
    "#PINWHEELul;rtssokul;passRECTILINEARokul;owpassRECTILINEARokul;TWELVEssokul;SIXTEENssqv;",
    "xlqv;serlxlqv;owxlqv;rtPETALLEDokojolFLORETTE;okFLORETTE;olFLORETTE;",
    "paPETALLED OUTLINEDokFLORETTE;qxserlpassul;owxlPINWHEELqv;SNOWFLAKE;",
    "TIGHT TRIFOLIATE SNOWFLAKE;owCHEVRON SNOWFLAKE;SPARKLE;owSPARKLE;BALLOON-SPOKEDqv;",
    "paxlPROPELLERqv;owpaxlPROPELLERqv;ttoq;ykolpc;xfsnttoq;qfhDROP-SHADOWEDoloy;",
    "qwhDROP-SHADOWEDoloy;qfhykoloy;qwhykoloy;oksvoqqk;olsvoqqk;!rpoqqk;okrzMINUSolX;owrpoqoh;",
    "pyobry;pqobry;owobry;!qrpzsbrwoqqk;#sbrwoqqk;!lpzsbrwoqqk;#sbrwoqqk;!uoqrsbrwoqqk;",
    "#lsbrwoqqk;CURVED STEM PARAGRAPHgqk;owrpoqqk;!wwrpoqqk;!okww;qiowokwwBULLET;FLORALww;",
    "qiFLORALwwBULLET;pqodpuqk;!hpuqk;!FLATTENEDodpuqk;#hpuqk;!rssyorqk;!qusyorqk;owrssyrwoqqk;",
    "!qusyrwoqqk;!rssyorqk;!qusyorqk;pyodvzymorqk;!hvzymorqk;pqodxsorqk;!hxsorqk;",
    "DINGBATxfqxqepk;%pj;%of;%pd;%ph;%rt;%pi;%pa;%ql;$revo;!qxsqqepk;%pj;%of;%pd;%ph;%rt;%pi;",
    "%pa;%ql;$revo;!xfqxsqqepk;&pj;&of;&pd;&ph;&rt;&pi;&pa;&ql;%revo;owWIDE-HEADEDkf;!qbg;",
    "!MINUSg;!DIVISIONg;!uktzf;!kf;!tptzf;DRAFTING POINTkf;owROUND-TIPPEDkf;oekf;owoekf;",
    "DASHEDoekf;owDASHEDoekf;okkf;THREE-D TOP-LIGHTEDkoz;!BOTTOM-LIGHTEDkoz;okkoz;",
    "owokCURVEDooojkf;$pfojkf;SQUATokkf;owCONCAVE-POINTEDokkf;RIGHT-SHADEDolkf;LEFT-SHADEDolkf;",
    "BACK-TILTEDykolkf;FRONT-TILTEDykolkf;owqfRIGHT-SHADOWEDolkf;!qwRIGHT-SHADOWEDolkf;",
    "NOTCHEDqfRIGHT-SHADOWEDolkf;xsLOOP;NOTCHEDqwRIGHT-SHADOWEDolkf;qxowolkf;WHITE-FEATHEREDkf;",
    "BLACK-FEATHEREDuktzf;!kf;!tptzf;owBLACK-FEATHEREDuktzf;#kf;#tptzf;TEARDROP-BARBEDkf;",
    "owTEARDROP-SHANKEDkf;WEDGE-TAILEDkf;owWEDGE-TAILEDkf;OPEN-OUTLINEDkf;lxsLOOP;",
    "ofDIMENSIONALsy;olotCONTAININGdolot;PERPENDICULAR;sevx;!uc;odS-SHAPED BAG DELIMITER;",
    "hS-SHAPED BAG DELIMITER;ORbpnye;wcvcPRECEDINGvx;ucPRECEDINGvc;obryboiog;wmRISINGrb;",
    "sjDIVISION;wmFALLINGrb;snzyoj;#OR;olrzbCENTREDpn;ojbpn;ELEMENTwhOPENINGpf;qfhunbpn;",
    "qwodunbpn;odOUTER JOIN;hOUTER JOIN;veOUTER JOIN;rnytyh;!qjyh;odojhlTURNSTILE;$yh;!MULTIMAP;",
    "sjhyh;!odyh;ytyhbpci;zzDIVIDED BYoiRULE;olCONCAVE-SIDEDrz;$boaTICK;%kTICK;!oyboaTICK;",
    "$kTICK;wmodoloyor;!holoyor;!odsyor;!hsyor;!odlsyor;!hlsyor;!odolvzymor;!holvzymor;",
    "!odFLATTENEDpu;!hFLATTENEDpu;pfyqf;ooyqf;sgGAPPEDpcf;xdGAPPEDpcf;hfbqxqb;sjoaf;!kf;!odhf;",
    "!oalf;!klf;!odhlf;!oafyvry;!kfyvry;!oalfyvry;!klfyvry;#SQUIGGLEf;BRAILLE PATTERN BLANK;",
    "#DOTS-1;#DOTS-2;#DOTS-12;#DOTS-3;#DOTS-13;#DOTS-23;#DOTS-123;#DOTS-4;#DOTS-14;#DOTS-24;",
    "#DOTS-124;#DOTS-34;#DOTS-134;#DOTS-234;#DOTS-1234;#DOTS-5;#DOTS-15;#DOTS-25;#DOTS-125;",
    "#DOTS-35;#DOTS-135;#DOTS-235;#DOTS-1235;#DOTS-45;#DOTS-145;#DOTS-245;#DOTS-1245;#DOTS-345;",
    "#DOTS-1345;#DOTS-2345;#DOTS-12345;#DOTS-6;#DOTS-16;#DOTS-26;#DOTS-126;#DOTS-36;#DOTS-136;",
    "#DOTS-236;#DOTS-1236;#DOTS-46;#DOTS-146;#DOTS-246;#DOTS-1246;#DOTS-346;#DOTS-1346;",
    "#DOTS-2346;#DOTS-12346;#DOTS-56;#DOTS-156;#DOTS-256;#DOTS-1256;#DOTS-356;#DOTS-1356;",
    "#DOTS-2356;#DOTS-12356;#DOTS-456;#DOTS-1456;#DOTS-2456;#DOTS-12456;#DOTS-3456;#DOTS-13456;",
    "#DOTS-23456;#DOTS-123456;#DOTS-7;#DOTS-17;#DOTS-27;#DOTS-127;#DOTS-37;#DOTS-137;#DOTS-237;",
    "#DOTS-1237;#DOTS-47;#DOTS-147;#DOTS-247;#DOTS-1247;#DOTS-347;#DOTS-1347;#DOTS-2347;",
    "#DOTS-12347;#DOTS-57;#DOTS-157;#DOTS-257;#DOTS-1257;#DOTS-357;#DOTS-1357;#DOTS-2357;",
    "#DOTS-12357;#DOTS-457;#DOTS-1457;#DOTS-2457;#DOTS-12457;#DOTS-3457;#DOTS-13457;#DOTS-23457;",
    "#DOTS-123457;#DOTS-67;#DOTS-167;#DOTS-267;#DOTS-1267;#DOTS-367;#DOTS-1367;#DOTS-2367;",
    "#DOTS-12367;#DOTS-467;#DOTS-1467;#DOTS-2467;#DOTS-12467;#DOTS-3467;#DOTS-13467;#DOTS-23467;",
    "#DOTS-123467;#DOTS-567;#DOTS-1567;#DOTS-2567;#DOTS-12567;#DOTS-3567;#DOTS-13567;",
    "#DOTS-23567;#DOTS-123567;#DOTS-4567;#DOTS-14567;#DOTS-24567;#DOTS-124567;#DOTS-34567;",
    "#DOTS-134567;#DOTS-234567;#DOTS-1234567;#DOTS-8;#DOTS-18;#DOTS-28;#DOTS-128;#DOTS-38;",
    "#DOTS-138;#DOTS-238;#DOTS-1238;#DOTS-48;#DOTS-148;#DOTS-248;#DOTS-1248;#DOTS-348;",
    "#DOTS-1348;#DOTS-2348;#DOTS-12348;#DOTS-58;#DOTS-158;#DOTS-258;#DOTS-1258;#DOTS-358;",
    "#DOTS-1358;#DOTS-2358;#DOTS-12358;#DOTS-458;#DOTS-1458;#DOTS-2458;#DOTS-12458;#DOTS-3458;",
    "#DOTS-13458;#DOTS-23458;#DOTS-123458;#DOTS-68;#DOTS-168;#DOTS-268;#DOTS-1268;#DOTS-368;",
    "#DOTS-1368;#DOTS-2368;#DOTS-12368;#DOTS-468;#DOTS-1468;#DOTS-2468;#DOTS-12468;#DOTS-3468;",
    "#DOTS-13468;#DOTS-23468;#DOTS-123468;#DOTS-568;#DOTS-1568;#DOTS-2568;#DOTS-12568;",
    "#DOTS-3568;#DOTS-13568;#DOTS-23568;#DOTS-123568;#DOTS-4568;#DOTS-14568;#DOTS-24568;",
    "#DOTS-124568;#DOTS-34568;#DOTS-134568;#DOTS-234568;#DOTS-1234568;#DOTS-78;#DOTS-178;",
    "#DOTS-278;#DOTS-1278;#DOTS-378;#DOTS-1378;#DOTS-2378;#DOTS-12378;#DOTS-478;#DOTS-1478;",
    "#DOTS-2478;#DOTS-12478;#DOTS-3478;#DOTS-13478;#DOTS-23478;#DOTS-123478;#DOTS-578;",
    "#DOTS-1578;#DOTS-2578;#DOTS-12578;#DOTS-3578;#DOTS-13578;#DOTS-23578;#DOTS-123578;",
    "#DOTS-4578;#DOTS-14578;#DOTS-24578;#DOTS-124578;#DOTS-34578;#DOTS-134578;#DOTS-234578;",
    "#DOTS-1234578;#DOTS-678;#DOTS-1678;#DOTS-2678;#DOTS-12678;#DOTS-3678;#DOTS-13678;",
    "#DOTS-23678;#DOTS-123678;#DOTS-4678;#DOTS-14678;#DOTS-24678;#DOTS-124678;#DOTS-34678;",
    "#DOTS-134678;#DOTS-234678;#DOTS-1234678;#DOTS-5678;#DOTS-15678;#DOTS-25678;#DOTS-125678;",
    "#DOTS-35678;#DOTS-135678;#DOTS-235678;#DOTS-1235678;#DOTS-45678;#DOTS-145678;#DOTS-245678;",
    "#DOTS-1245678;#DOTS-345678;#DOTS-1345678;#DOTS-2345678;#DOTS-12345678;kxqfbobog;%lobog;",
    "oalfbobog;klfbobog;odhlfbobog;kxqfyvry;oalfyvry;klfyvry;oofboiog;pffboiog;!shf;ooshf;",
    "oalwtf;klwtf;oashwtf;kshwtf;!xqshwtf;!fbtmSTEM;pffvtry;oofvtry;kfbusbobog;&lobog;!xqfbus;",
    "&bobog;(lobog;oaARROW-TAIL;kARROW-TAIL;oalARROW-TAIL;klARROW-TAIL;oafvtokrz;kfvtokrz;",
    "oafyvryvtokrz;kfyvryvtokrz;tpuwojuktzf;!tzojukuwf;!uwfbpe;!tzfbpe;uktzfbpe;!uwfbpe;",
    "tpuwfojtptzf;!tzfojuktzf;uktzfojukuwf;!uwfojtpuwf;RISINGrbslFALLINGrb;FALLINGrbslRISINGrb;",
    "uktzfsltptzf;tptzfsluktzf;FALLINGrbsltptzf;RISINGrbsluktzf;tptzfsltpuwf;!uwfsltptzf;",
    "WAVEfppDIRECTLYh;fppkTHEN CURVINGpf;&oo;#ooTHEN CURVINGoa;&k;RIGHT-SIDE ARCxdf;",
    "LEFT-SIDE ARCsgf;TOP ARCsgf;umARCsgf;TOP ARCxdfbMINUS;#sgfbqb;qfhSEMICIRCULARxdf;",
    "!odSEMICIRCULARsgf;sgtypcf;xdtypcf;kfitdoaf;oafitdkf;tdkfioaf;kfbqbm;oafbqbm;kfzdX;",
    "odhfzddpc;pfxqfyvdpc;odrrythrrqjqs;#qjhrrytqs;ytrrhqjrrodqs;#odqjrrhqs;odrrythrrytqs;",
    "ytrrhqjrrhqs;odrrqjhrrqjqs;ytrrodqjrrodqs;oaqsbrrytvtry;kqsbrrytvtry;pfqsbrrhvtry;",
    "ooqsbrrhvtry;oaqsbrrqjvtry;kqsbrrqjvtry;pfqsbrrodvtry;ooqsbrrodvtry;oaqsbrrytyvry;",
    "kqsbrrytyvry;pfqsbrrhyvry;ooqsbrrhyvry;oaqsbrrqjyvry;kqsbrrqjyvry;pfqsbrrodyvry;",
    "ooqsbrrodyvry;oaqsbrrytioaqsbrrqj;pfqsbrrodBESIDEpfqsbrrh;kqsbrrytikqsbrrqj;",
    "ooqsbrrodBESIDEooqsbrrh;oaqsbrrytikqsbrryt;%qjikqsbrrqj;kqsbrrytioaqsbrryt;%qjioaqsbrrqj;",
    "oaqsbrrytisjwt;%qjmsjwt;kqsbrrytisjwt;%qjmsjwt;pfqsbrrodBESIDEooqsbrrh;",
    "ooqsbrrodBESIDEpfqsbrrh;hlfbROUNDED HEAD;uagikf;qcrgikf;oafiqcrg;kfiqcrg;$zppwvt;plioaf;",
    "oafzdpl;ovikf;vxikf;oafzdvx;ucioaf;odFISHus;hFISHus;ytFISHus;qjFISHus;shobryDELIMITER;",
    "Z NOTATION SPOT;#TYPEwg;odolxsor;holxsor;odolpu;holpu;Z NOTATIONodIMAGEor;#hIMAGEor;",
    "#odBINDINGor;#hBINDINGor;odoyorbtr;hoyorbtr;odoyorbTICK IN TOPun;hoyorbTICK INumun;",
    "odoyorbTICK INumun;hoyorbTICK IN TOPun;odsyorbpn;hsyorbpn;odARCplor;hARCovor;lodARCovor;",
    "!hARCplor;odokvzymor;hokvzymor;tmFENCE;obZIGZAGtq;MEASUREDsyOPENINGod;hsyvuboy;",
    "MEASUREDhsybpn;sybSye;qmsy;SPHERICALsyOPENINGod;$yt;pzsy;pgsy;sybtr;pgsybtr;yosyOPENINGyt;",
    "$qj;MEASUREDsybseARM ENDING INfppytojh;:od;+qjojh;:od;+hojyt;+odojyt;+hojqj;+odojqj;",
    "pgEMPTY SET;EMPTY SETbOVERBAR;$dpci;$hfi;$odfi;pcboiry;qxobry;!PARALLEL;!wcvc;",
    "!PERPENDICULAR;pcDIVIDED BYoiryojTOPqhDIVIDED BYobry;!bSUPERIMPOSED X;",
    "qxANTICLOCKWISE-ROTATED DIVISIONg;ytfzdpc;qxolBULLET;!BULLET;!pl;!ov;pcbdpcvtTHEh;",
    "#pjoiSTROKESvtTHEh;snRISINGrbSLASH;!FALLINGrbSLASH;!qv;!dpc;!oy;pjJOINED SQUARES;otbpni;",
    "#tr;S INot;otbSERIFS ATum;hotiodot;odotBESIDEobry;obryBESIDEhot;BOWTIEbodqhok;#hqhok;",
    "okBOWTIE;pbbodqhok;#hqhok;olHOURGLASS;okHOURGLASS;odWIGGLY FENCE;hWIGGLY FENCE;",
    "odlWIGGLY FENCE;hlWIGGLY FENCE;INCOMPLETE INFINITY;TIErfINFINITY;INFINITY NEGATEDbobry;",
    "DOUBLE-ENDED MULTIMAP;oybCONTOURED OUTLINE;INCREASES AS;SHUFFLE PRODUCT;uagojvsPARALLEL;",
    "&bqci;IDENTICALvtojvsPARALLEL;GLEICH STARK;THERMODYNAMIC;uqotbodqhok;$hqhok;okrzbqjf;!zz;",
    "olpcbqjf;okpcbqjf;ERROR-BARREDoloy;!okoy;!olrz;!okrz;!olpc;!okpc;RULE-DELAYED;wcvcrg;",
    "vcbOVERBAR;wcvcboiog;BIGvc;!wcvc;lqb;shqb;rsCURVEDsyor;quCURVEDsyor;TINY;MINY;N-ARYqxpnrg;",
    "#qbrg;#pbrg;!UNIONrgbpn;%qb;!oytgrg;#UNIONrg;pjzyojrg;#ORrg;N-ARYpbrg;MODULOpjSUM;",
    "SUMMATIONbvm;yqvmrg;FINITE PARTvm;vmblog;!AVERAGEbSLASH;CIRCULATION FUNCTION;sgINTEGRATION;",
    "tqINTEGRATIONbRECTANGULAR PATH AROUND POLE;$SEMICIRCULAR PATH AROUND POLE;",
    "#xxINCLUDING THE POLE;vmAROUND A POINTrg;QUATERNIONvmrg;vmboafbpe;#pbg;#tg;#UNION;#OVERBAR;",
    "#tr;JOIN;rnodotrg;Z NOTATION SCHEMA COMPOSITION;$PIPING;$PROJECTION;qbgbdpci;$ostii;$qci;",
    "$pnm;$qcm;$SUBSCRIPTpj;$okot;MINUSgbsbi;$pnm;$FALLINGqy;$RISINGqy;qbgINodqhpc;$hqhpc;",
    "VECTOR ORttPRODUCT;urgbpni;$tr;SEMIDIRECT PRODUCTbumty;SMASH PRODUCT;urgINodqhpc;$hqhpc;",
    "qxurgbosti;urgINlpc;qxDIVISIONg;qbgINot;MINUSgINot;urgINot;INTERIOR PRODUCT;",
    "RIGHTHAND INTERIOR PRODUCT;Z NOTATION RELATIONAL COMPOSITION;AMALGAMATION OR COPRODUCT;",
    "tgbpn;UNIONbMINUSg;#OVERBAR;tgbOVERBAR;#zyoj;UNIONbzyOR;!itg;tgiUNION;UNIONiryitg;",
    "tgiryiUNION;UNION BESIDEojJOINEDbUNION;tgBESIDEojJOINEDbtg;tyUNIONbSERIFS;!tgbSERIFS;loytg;",
    "#UNION;tyUNIONbSERIFSojSMASH PRODUCT;zyojbpni;!ORbpni;lzyoj;#OR;pjINTERSECTINGzyoj;$OR;",
    "SLOPINGrnOR;#oj;zyOR OVERLAPPINGzyoj;!ojbomSTEM;!ORbomSTEM;!ojboiwt;!ORboiwt;!ojblOVERBAR;",
    "$tr;$ltr;dVEEbtr;zyORblOVERBAR;%tr;Z NOTATION DOMAIN ANTIRESTRICTION;",
    "#RANGE ANTIRESTRICTION;uagbpnm;IDENTICALbpni;shoiryblobog;%shobog;qcrgbpni;$RISINGqy;",
    "SIMILAR MINUS SIMILAR;CONGRUENTbpni;uabqv;zppwvtbosti;APPROXIMATELYpwORpwvt;uagiqbg;",
    "qbgiuag;uagiqcrg;lwgpw;pjCONSECUTIVEuaSIGNS;ofCONSECUTIVEuaSIGNS;uagbpjqyiojpjqym;vfbpdqyi;",
    "plbpcye;ovbpcye;plbsvoqi;ovbsvoqi;plORvspwvt;ovORvspwvt;plORvspwvtbpnye;ovORvspwvtbpnye;",
    "plORvspwvtbpni;ovORvspwvtbpni;plORvspwvtbpnih;ovORvspwvtbpniod;plOR APPROXIMATE;",
    "ovOR APPROXIMATE;plojSINGLE-LINExxpwvt;ovojSINGLE-LINExxpwvt;plojxxAPPROXIMATE;",
    "ovojxxAPPROXIMATE;pliDOUBLE-LINEpwiov;oviDOUBLE-LINEpwipl;pliSIMILAR ORpw;oviSIMILAR ORpw;",
    "pliSIMILARiov;oviSIMILARipl;plioviDOUBLE-LINEpw;ovipliDOUBLE-LINEpw;plivspwiovivspw;",
    "ovivspwiplivspw;vspwvtORpl;%ov;%plbpnye;%ovbpnye;DOUBLE-LINEpwvtORpl;%ov;!vspwvtORpl;&ov;",
    "SIMILAR ORpl;#ov;!ipliuag;#oviuag;lNESTEDpl;#ov;#plbtr;ovOVERLAPPINGpl;!BESIDEpl;",
    "pltyBY CURVE;ovtyBY CURVE;pltyBY CURVEivspw;ovtyBY CURVEivspw;SMALLER THAN;LARGER THAN;",
    "SMALLER THAN ORpwvt;LARGER THAN ORpwvt;uagbBUMPYi;yjiSINGLE-LINEuag;yliSINGLE-LINEuag;",
    "yjiSINGLE-LINExxpwvt;yliSINGLE-LINExxpwvt;yjiuag;yliuag;yjixxpwvt;ylixxpwvt;yjizppwvt;",
    "ylizppwvt;yjixxzppwvt;ylixxzppwvt;lyj;!yl;vxbpn;ucbpn;vxbqbgm;ucbqbgm;vxburgm;ucburgm;",
    "vxwhORpwvtbpni;ucwhORpwvtbpni;vxwhiuag;ucwhiuag;vxwhiqcrg;ucwhiqcrg;vxwhizppwvt;",
    "ucwhizppwvt;vxwhixxpwvt;ucwhixxpwvt;oyodseBOXrg;!hseBOXrg;tyvx;!uc;!vxORpwvt;!ucORpwvt;",
    "vxiuc;ucivx;vxivx;uciuc;!BESIDEvx;#ojJOINED BYwtbvx;ELEMENTwhOPENINGoo;PITCHFORKbTEE TOP;",
    "TRANSVERSALtg;FORKING;NONFORKING;tdodyh;!qjyh;!ytyh;PERPENDICULARbS;obryshhTURNSTILE;",
    "lobryodTURNSTILE;obrylodTURNSTILE;lobrylodTURNSTILE;sjwtyvodMEMBERwhlob;tdqjyhbOVERBAR;",
    "!ytyhbtr;$itdqjyh;lqjyh;!ytyh;!ogxxg;pglogxxg;DOESxxDIVIDEbpgNEGATION SLASH;obtqbpci;%m;",
    "qjyhbpcm;PARALLELboiog;#qcrg;shobryBINARY RELATION;$boiog;!wgrg;!NESTEDpl;#ov;",
    "DOUBLE-LINEvsplORpwvt;#ovORpwvt;shvcBINARY RELATION;rnshobryrg;lvcrg;olobry;N-ARYolobry;",
    "tptzolf;!uwolf;uktzolf;!uwolf;odholf;oaokf;pfokf;oookf;tptzokf;!uwokf;uktzokf;!uwokf;",
    "odhokf;ytqjokf;kfbTIPoo;%pf;oafbTIPoo;%pf;oybTOPqhok;#umqhok;#qwhrbqhok;#qfodrbqhok;",
    "rzbodqhok;#hqhok;#TOPqhok;#umqhok;tmoy;okrnoy;olrnoy;okVERYdoy;olVERYdoy;okPENTAGON;",
    "olPENTAGON;!HEXAGON;okHEXAGON;oiokHEXAGON;okrnpc;!pqrz;olpqrz;okpqzz;olpqzz;okdrz;#zz;",
    "oldzz;okoiELLIPSE;oloiELLIPSE;okobELLIPSE;olobELLIPSE;odfbdpc;ofoazq;odfbqxqb;",
    "sjoaSQUIGGLEf;oaxqfbobog;%lobog;$yvry;#shwtf;!fbtmSTEM;$usbobog;&lobog;!xqfbus;&bobog;",
    "(lobog;!fzdX;WAVEfppDIRECTLYod;uagioaf;wcqcrgioaf;oafiwczppwvt;kfzdov;$uc;oayqf;kyqf;",
    "wcqcrgikf;kfiwczppwvt;qcrgioaf;oafizppwvt;$wcqcrg;kfiwcqcrg;oooeZIGZAGf;tdvstpf;",
    "!BACKSLANTEDukf;olpqul;okdul;oldul;okquPENTAGON;olquPENTAGON;owrnpc;!OVALbOVALye;!pcbpcye;",
    "#;!qxSALTIRE;vstpfbHOOKED HEAD;BACKSLANTEDukfbHOOKEDus;vstpfboius;BACKSLANTEDukfboius;",
    "zifppooTHENtptz;tdzifppooTHENtptz;oaoef;pfoef;koef;oooef;odhoef;ytqjoef;tpuwoef;!tzoef;",
    "uktzoef;!uwoef;oaoeDASHEDf;pfoeDASHEDf;koeDASHEDf;oooeDASHEDf;xdoesepcf;sgoesepcf;",
    "oaoefvtry;pfoefvtry;koefvtry;oooefvtry;;;tpuwoefvtry;!tzoefvtry;uktzoefvtry;!uwoefvtry;",
    "oaoefbloiog;pfoefbloiog;koefbloiog;oooefbloiog;oiTAB KEY;obTAB KEY;oaoefrfkoef;",
    "pfoefoawhoooef;koefrfoaoef;oooefoawhpfoef;oaoePAIREDzq;pfoePAIREDzq;koePAIREDzq;",
    "oooePAIREDzq;oaokqxolf;pfokqxolf;kokqxolf;oookqxolf;sgoehU-SHAPEDf;#umU-SHAPEDf;",
    "#odU-SHAPEDf;#TOP U-SHAPEDf;RETURNod;!h;NEWLINEod;!h;pdunzqCIRCLINGsg;kokf;;",
    "ohFOR TYPE A ELECTRONICS;THREE-D TOP-LIGHTEDoaruoz;!RIGHT-LIGHTEDpfruoz;!TOP-LIGHTEDkruoz;",
    "!LEFT-LIGHTEDooruoz;okoaruoz;!pfruoz;!kruoz;!ooruoz;oooefbsjTIPoa;(k;pfoefbsjTIPoa;(k;",
    "oaoefbsjTIPpf;koefbsjTIPpf;oaoefbsjTIPoo;koefbsjTIPoo;okCURVEDooojoaf;%kf;#pfojoaf;%kf;",
    "#oaojpff;#kojpff;#oaojoof;#kojoof;RIBBONfqjod;$h;#ytod;$h;#odyt;#hyt;#odqj;#hqj;",
    "pfolfyvryboiry;ytozIN A RECTANGLE BOX;OVERLAPPINGolSQUARES;#ojokSQUARES;!okSQUARES;",
    "BALLOT BOXbpyX;qxX;!zoX;okoyCENTRED;!rzCENTRED;pzokPENTAGON;oiokOCTAGON;okOCTAGON;",
    "!pquyotCENTRED;#uqotCENTRED;#rsotCENTRED;#quotCENTRED;NEPTUNEepj;TOPqhokpc;umqhokpc;",
    "pypdssokCUSP;qipypdssokCUSP;olpdssCUSP;qiolpdssCUSP;oyPOSITION INDICATOR;UNCERTAINTYg;",
    "GROUPoq;PLUTOepj;#of;#pd;#ph;TRANSPLUTO;PROSERPINA;ASTRAEA;HYGIEA;PHOLUS;NESSUS;",
    "olMOON SELENA;okrzONtt;TRUEpyMOON ARTA;CUPIDO;HADES;ZEUS;KRONOS;APOLLON;ADMETOS;VULCANUS;",
    "POSEIDON;odqhokul;hqhokul;ulbodqhok;#hqhok;oaxqfbotARROWHEADS;pfxqfbotARROWHEADS;",
    "kxqfbotARROWHEADS;ooxqfbotARROWHEADS;ERISepk;#pj;SEDNA;RUSSIAN ASTROLOGICALohVIGINTILE;",
    "$NOVILE;$QUINTILE;$BINOVILE;$SENTAGON;$TREDECILE;uagbINFINITYm;UNITEDoh;SEPARATEDoh;",
    "DOUBLEDoh;PASSEDoh;pghsy;HELLSCHREIBER PAUSEoh;GLAGOLITICcaAZU;$BUKY;$VEDE;$GLAGOLI;$DOBRO;",
    "$YESTU;$ZHIVETE;$DZELO;$ZEMLJA;$IZHE;$ocIZHE;$I;$DJERVI;$KAKO;$LJUDIJE;$MYSLITE;$NASHI;",
    "$ONU;$POKOJI;$RITSI;$SLOVO;$TVRIDO;$UKU;$FRITU;$HERU;$OTU;$PE;$SHTA;$TSI;$CHRIVI;$wf;$YERU;",
    "$YERI;$YATI;$SPIDERY HA;$YU;$dYUS;&bus;$YO;$IOTATEDdYUS;$BIG YUS;$IOTATED BIG YUS;$FITA;",
    "$IZHITSA;$SHTAPIC;$TROKUTASTI A;$LATINATE MYSLITE;$CAUDATE CHRIVI;!daAZU;$BUKY;$VEDE;",
    "$GLAGOLI;$DOBRO;$YESTU;$ZHIVETE;$DZELO;$ZEMLJA;$IZHE;$ocIZHE;$I;$DJERVI;$KAKO;$LJUDIJE;",
    "$MYSLITE;$NASHI;$ONU;$POKOJI;$RITSI;$SLOVO;$TVRIDO;$UKU;$FRITU;$HERU;$OTU;$PE;$SHTA;$TSI;",
    "$CHRIVI;$wf;$YERU;$YERI;$YATI;$SPIDERY HA;$YU;$dYUS;&bus;$YO;$IOTATEDdYUS;$BIG YUS;",
    "$IOTATED BIG YUS;$FITA;$IZHITSA;$SHTAPIC;$TROKUTASTI A;$LATINATE MYSLITE;$CAUDATE CHRIVI;",
    "szcaLblry;!daLblry;!caLbomqc;$Pbog;$Rbus;!daAbog;$Tbrbog;!caHbqt;!daHbqt;!caKbqt;!daKbqt;",
    "!caZbqt;!daZbqt;!cawa;$Mbpe;$pzA;%wa;!daVbhpe;!caWbpe;!daWbpe;$VbCURL;!caqhH;!daqhH;",
    "$TAILLESS PHI;$EbNOTCH;$pzRbus;$Obuormye;!adcpzE;!SUBSCRIPTdaJ;sracV;szcaSbSWASHus;",
    "$ZbSWASHus;vvcaALFA;!daALFA;!caVIDA;!daVIDA;!caza;!daza;!caDALDA;!daDALDA;!caEIE;!daEIE;",
    "!caSOU;!daSOU;!caZATA;!daZATA;!caHATE;!daHATE;!caTHETHE;!daTHETHE;!caIAUDA;!daIAUDA;",
    "!caKAPA;!daKAPA;!caLAULA;!daLAULA;!caMI;!daMI;!caNI;!daNI;!caKSI;!daKSI;!caO;!daO;!caPI;",
    "!daPI;!caRO;!daRO;!caSIMA;!daSIMA;!caTAU;!daTAU;!caUA;!daUA;!caFI;!daFI;!caKHI;!daKHI;",
    "!caPSI;!daPSI;!caOOU;!daOOU;!caDIALECT-Prj;!daDIALECT-Prj;!cayavvAIN;!dayavvAIN;!cawrEIE;",
    "!dawrEIE;!caDIALECT-P KAPA;!daDIALECT-P KAPA;!caDIALECT-P NI;!daDIALECT-P NI;!cawrNI;",
    "!dawrNI;!cayavvOOU;!dayavvOOU;!caSAMPI;!daSAMPI;!cazwSHEI;!dazwSHEI;!cayavvSHEI;",
    "!dayavvSHEI;!cayavvESH;!dayavvESH;!caAKHMIMIC KHEI;!daAKHMIMIC KHEI;!caDIALECT-P HORI;",
    "!daDIALECT-P HORI;!cayavvHORI;!dayavvHORI;!cayavvHA;!dayavvHA;!caL-SHAPED HA;",
    "!daL-SHAPED HA;!cayavvHEI;!dayavvHEI;!cayavvHAT;!dayavvHAT;!cayavvGANGIA;!dayavvGANGIA;",
    "!cayavvDJA;!dayavvDJA;!cayavvSHIMA;!dayavvSHIMA;!cayaNUBIAN SHIMA;!dayaNUBIAN SHIMA;",
    "!cayaNUBIAN NGI;!dayaNUBIAN NGI;!cayaNUBIAN NYI;!dayaNUBIAN NYI;!cayaNUBIAN WAU;",
    "!dayaNUBIAN WAU;!ohKAI;#MI RO;#PI RO;#STAUROS;#TAU RO;#KHI RO;#SHIMA SIMA;!cawrSHEI;",
    "!dawrSHEI;!cawrGANGIA;!dawrGANGIA;!raNIi;#SPIRITUS ASPER;$LENIS;!caBOHAIRIC KHEI;",
    "!daBOHAIRIC KHEI"]),
  (0x2cf9, ["vvyaNUBIANveta;$DIRECTsvoq;$INDIRECTsvoq;$VERSE DIVIDER;!vlpkqh;!veta;",
    "!MORPHOLOGICAL DIVIDER;GEORGIANdaAN;$BAN;$GAN;$DON;$EN;$VIN;$ZEN;$TAN;$IN;$KAN;$LAS;$MAN;",
    "$NAR;$ON;$PAR;$ZHAR;$RAE;$SAN;$TAR;$UN;$PHAR;$KHAR;$GHAN;$QAR;$zk;$CHIN;$CAN;$JIL;$CIL;",
    "$CHAR;$XAN;$JHAN;$HAE;$HE;$HIE;$WE;$HAR;$HOE;;$YN"]),
  (0x2d2d, ["GEORGIANdaAEN;;;TIFINAGHaYA;#YAB;#YABH;#YAG;#YAGHH;#BERBER ACADEMY YAJ;#YAJ;#YAD;",
    "#YADH;#YADD;#YADDH;#YEY;#YAF;#YAK;#TUAREG YAK;#YAKHH;#YAH;#BERBER ACADEMY YAH;#TUAREG YAH;",
    "#YAHH;#YAA;#YAKH;#TUAREG YAKH;#YAQ;#TUAREG YAQ;#YI;#YAZH;#AHAGGAR YAZH;#TUAREG YAZH;#YAL;",
    "#YAM;#YAN;#TUAREG YAGN;$YANG;#YAP;#YU;#YAR;#YARR;#YAGH;#TUAREG YAGH;#AYER YAGH;#YAS;#YASS;",
    "#YASH;#YAT;#YATH;#YACH;#YATT;#YAV;#YAW;#YAY;#YAZ;#TAWELLEMET YAZ;#YAZZ;#YE;#YO"]),
  (0x2d6f, ["TIFINAGHsraLABIALIZATIONoq;!tfoq"]),
  (0x2d7f, ["TIFINAGHtkJOINER;ETHIOPICvyLOA;#MOA;#ROA;#SOA;#SHOA;#BOA;#TOA;#COA;#NOA;#NYOA;",
    "#ufOA;#ZOA;#DOA;#DDOA;#JOA;#THOA;#CHOA;#PHOA;#POA;#GGWA;#GGWI;#GGWEE;#GGWE"]),
  (0x2da0, ["ETHIOPICvySSA;#SSU;#SSI;#SSAA;#SSEE;#SSE;#SSO;;#CCA;#CCU;#CCI;#CCAA;#CCEE;#CCE;",
    "#CCO;;#ZZA;#ZZU;#ZZI;#ZZAA;#ZZEE;#ZZE;#ZZO;;#CCHA;#CCHU;#CCHI;#CCHAA;#CCHEE;#CCHE;#CCHO;;",
    "#QYA;#QYU;#QYI;#QYAA;#QYEE;#QYE;#QYO;;#KYA;#KYU;#KYI;#KYAA;#KYEE;#KYE;#KYO;;#XYA;#XYU;#XYI;",
    "#XYAA;#XYEE;#XYE;#XYO;;#GYA;#GYU;#GYI;#GYAA;#GYEE;#GYE;#GYO;;raxtaBE;$VE;$GHE;$DE;$ZHE;$ZE;",
    "$KA;$EL;$EM;$EN;$O;$PE;$ER;$ES;$TE;$HA;$TSE;$CHE;$wf;$SHCHA;$FITA;$ES-TE;$A;$IE;$DJERV;",
    "$MONOGRAPH UK;$YAT;$YU;$wqA;$roYUS;$BIG YUS;$wqBIG YUS;hsySUBSTITUTION MARKER;",
    "#tmSUBSTITUTION MARKER;odSUBSTITUTIONor;hSUBSTITUTIONor;odtmSUBSTITUTIONor;",
    "htmSUBSTITUTIONor;vwINTERPOLATION MARKER;!tmINTERPOLATION MARKER;tmTRANSPOSITION MARKER;",
    "odTRANSPOSITIONor;hTRANSPOSITIONor;vwoy;odvwOMISSIONor;hvwOMISSIONor;EDITORIAL CORONIS;",
    "PARAGRAPHOS;FORKED PARAGRAPHOS;pgFORKED PARAGRAPHOS;HYPODIASTOLE;tmOBELOS;ooANCORA;",
    "pfANCORA;tmqusy;lyoHYPHEN;poINTERROBANG;PALM BRANCH;HYPHENbox;qcbrmi;oduoPARAPHRASEor;",
    "huoPARAPHRASEor;qcbpni;$m;odobrybQUILL;hobrybQUILL;TOPodqhor;!hqhor;umodqhor;!hqhor;",
    "odSIDEWAYS Uor;hSIDEWAYS Uor;odlpu;hlpu;pjqyrfpkpnps;pkpnrfpjqyps;snpdpnps;phpnoq;pgsvoq;",
    "obqc;rmPOINT;WORDtfompn;pzsb;vwpn;!sb;pzxy;DAGGERbodGUARD;#hGUARD;pzDAGGER;TOPqhvbg;",
    "TWO-EMwt;THREE-EMwt;STENOGRAPHICveta;obrtqy;WIGGLYobtq;CAPITULUM;lHYPHEN;pgsb;",
    "lLOW-REVERSED-9rwoq;wtbodUPTURN;lSUSPENSIONoq;pouoKAVYKA;$bKAVYKAi;uoKAVYKA;#bpn;",
    "lSTACKEDsb;tmvc;shDAGGER;MEDIEVALsb;PARAGRAPHUSoq;PUNCTUS ELEVATUSoq;CORNISH VERSE DIVIDER;",
    "ttPATTYbhCROSSBAR;$odCROSSBAR;TIRONIANgcET;MEDIEVALrpoq;!svoq;odoyorbog;hoyorbog;",
    "odoyorblog;hoyorblog;TOPqhodpu;#hpu;umqhodpu;#hpu;yoHYPHEN"]),
  (0x2e80, ["CJK RADICAL REPEAT;#CLIFF;#SECONDpk;$pj;$of;#zt;#BOX;#TABLE;#KNIFEpk;$pj;",
    "#DIVINATION;#SEAL;#dpk;$pj;#LAMEpk;$pj;$of;$pd;#SNAKE;#THREAD;#SNOUTpk;$pj;#wwpk;$pj;#yw;",
    "#RAP;;#CHOKE;#SUN;#MOON;#DEATH;#MOTHER;#CIVILIAN;#WATERpk;$pj;#FIRE;#PAWpk;$pj;",
    "#SIMPLIFIEDqhTREE TRUNK;#COW;#DOG;#JADE;#BOLTwhCLOTH;#EYE;#SPIRITpk;$pj;#BAMBOO;#SILK;",
    "#twSILK;#NETpk;$pj;$of;$pd;#MESH;#SHEEP;#RAM;#EWE;#ya;#BRUSHpk;$pj;#MEAT;#MORTAR;#GRASSpk;",
    "$pj;$of;#TIGER;#CLOTHES;#uwpk;$pj;#twSEE;#SIMPLIFIEDyg;#yg;#twSPEECH;$ym;#FOOT;#twCART;",
    "#SIMPLIFIED WALK;#WALKpk;$pj;#CITY;#twGOLD;#sjpk;$pj;#twsj;$GATE;#MOUNDpk;$pj;#RAIN;#BLUE;",
    "#twTANNED LEATHER;$LEAF;$WIND;$FLY;#EATpk;$pj;$of;#twEAT;#HEAD;#twHORSE;#BONE;#GHOST;",
    "#twFISH;$BIRD;$SALT;#SIMPLIFIED WHEAT;$YELLOW;#twFROG;#J-SIMPLIFIED EVEN;#twEVEN;",
    "#J-SIMPLIFIED TOOTH;#twTOOTH;#J-SIMPLIFIED DRAGON;#twDRAGON;#TURTLE;#J-SIMPLIFIED TURTLE;",
    "#twTURTLE"]),
  (0x2f00, ["KANGXI RADICALpk;#tq;#pn;#SLASH;#SECOND;#pe;#pj;#LID;#MAN;#LEGS;#ENTER;#pa;#qjBOX;",
    "#COVER;#ICE;#TABLE;#seBOX;#KNIFE;#POWER;#WRAP;#SPOON;#hseBOX;#HIDING ENCLOSURE;#vo;",
    "#DIVINATION;#SEAL;#CLIFF;#PRIVATE;#AGAIN;#zn;#ENCLOSURE;#EARTH;#SCHOLAR;#GO;$SLOWLY;",
    "#EVENING;#BIG;#WOMAN;#CHILD;#ROOF;#INCH;#d;#LAME;#CORPSE;#SPROUT;#MOUNTAIN;#RIVER;#WORK;",
    "#ONESELF;#TURBAN;#DRY;#tdTHREAD;#tmCLIFF;#sjSTRIDE;#pjHANDS;#SHOOT;#BOW;#SNOUT;#BRISTLE;",
    "#STEP;#ww;#HALBERD;#DOOR;#yw;#BRANCH;#RAP;#wi;#DIPPER;#AXE;#oy;#xx;#SUN;#SAY;#MOON;#TREE;",
    "#LACK;#ta;#DEATH;#WEAPON;#DOxx;#COMPARE;#FUR;#CLAN;#STEAM;#WATER;#FIRE;#CLAW;#FATHER;#lX;",
    "#qhTREE TRUNK;#SLICE;#FANG;#COW;#DOG;#PROFOUND;#JADE;#MELON;#TILE;#SWEET;#LIFE;#USE;#FIELD;",
    "#BOLTwhCLOTH;#SICKNESS;#tmTENT;#ol;#SKIN;#DISH;#EYE;#SPEAR;#f;#STONE;#SPIRIT;#TRACK;#GRAIN;",
    "#CAVE;#STAND;#BAMBOO;#RICE;#SILK;#JAR;#NET;#SHEEP;#FEATHER;#ya;#oj;#PLOW;#EAR;#BRUSH;#MEAT;",
    "#MINISTER;#SELF;#ARRIVE;#MORTAR;#TONGUE;#OPPOSE;#BOAT;#STOPPING;#COLOR;#GRASS;#TIGER;",
    "#INSECT;#BLOOD;#WALK ENCLOSURE;#CLOTHES;#uw;#SEE;#yg;#SPEECH;#VALLEY;#BEAN;#PIG;#BADGER;",
    "#ym;#RED;#RUN;#FOOT;#BODY;#CART;#BITTER;#MORNING;#WALK;#CITY;#WINE;#DISTINGUISH;#VILLAGE;",
    "#GOLD;#sj;#GATE;#MOUND;#SLAVE;#tdTAILED BIRD;#RAIN;#BLUE;#WRONG;#qp;#LEATHER;",
    "#TANNED LEATHER;#LEEK;#SOUND;#LEAF;#WIND;#FLY;#EAT;#HEAD;#FRAGRANT;#HORSE;#BONE;#TALL;",
    "#HAIR;#FIGHT;#SACRIFICIAL WINE;#CAULDRON;#GHOST;#FISH;#BIRD;#SALT;#DEER;#WHEAT;#HEMP;",
    "#YELLOW;#MILLET;#ok;#EMBROIDERY;#FROG;#TRIPOD;#DRUM;#RAT;#NOSE;#EVEN;#TOOTH;#DRAGON;",
    "#TURTLE;#FLUTE"]),
  (0x2ff0, ["ujDESCRIPTION CHARACTERodvth;$ivtm;$odvtomojh;$ivtomojm;$veSURROUND;$SURROUNDyvi;",
    "&m;&od;&qwod;(h;&qfod;$OVERLAID"])]

/-- The names of marks that choose between forms of characters. -/
def tagNames : List (Nat × List String) := [
  (0xe0001, ["LANGUAGE TAG"]),
  (0xe0020, ["TAGzc;!rpoq;!rwoq;!reg;!DOLLARg;!PERCENTg;!AMPERSAND;!ze;!odpu;!hpu;!qv;!qbg;!sb;",
    "!HYPHEN-MINUS;!veta;!vc;!qerx;#pk;#pj;#of;#pd;#ph;#rt;#pi;#pa;#ql;!wg;!xy;!plg;!uag;!ovg;",
    "!svoq;!COMMERCIAL AT;!szcaA;%B;%C;%D;%E;%F;%G;%H;%I;%J;%K;%L;%M;%N;%O;%P;%Q;%R;%S;%T;%U;%V;",
    "%W;%X;%Y;%Z;!odoyor;!wcvc;!hoyor;!osti;!uotq;!rqti;!szdaA;%B;%C;%D;%E;%F;%G;%H;%I;%J;%K;%L;",
    "%M;%N;%O;%P;%Q;%R;%S;%T;%U;%V;%W;%X;%Y;%Z;!odxsor;!obtq;!hxsor;!qc;CANCEL TAG"]),
  (0xe0100, ["VARIATION SELECTOR-17;!SELECTOR-18;!SELECTOR-19;!SELECTOR-20;!SELECTOR-21;",
    "!SELECTOR-22;!SELECTOR-23;!SELECTOR-24;!SELECTOR-25;!SELECTOR-26;!SELECTOR-27;!SELECTOR-28;",
    "!SELECTOR-29;!SELECTOR-30;!SELECTOR-31;!SELECTOR-32;!SELECTOR-33;!SELECTOR-34;!SELECTOR-35;",
    "!SELECTOR-36;!SELECTOR-37;!SELECTOR-38;!SELECTOR-39;!SELECTOR-40;!SELECTOR-41;!SELECTOR-42;",
    "!SELECTOR-43;!SELECTOR-44;!SELECTOR-45;!SELECTOR-46;!SELECTOR-47;!SELECTOR-48;!SELECTOR-49;",
    "!SELECTOR-50;!SELECTOR-51;!SELECTOR-52;!SELECTOR-53;!SELECTOR-54;!SELECTOR-55;!SELECTOR-56;",
    "!SELECTOR-57;!SELECTOR-58;!SELECTOR-59;!SELECTOR-60;!SELECTOR-61;!SELECTOR-62;!SELECTOR-63;",
    "!SELECTOR-64;!SELECTOR-65;!SELECTOR-66;!SELECTOR-67;!SELECTOR-68;!SELECTOR-69;!SELECTOR-70;",
    "!SELECTOR-71;!SELECTOR-72;!SELECTOR-73;!SELECTOR-74;!SELECTOR-75;!SELECTOR-76;!SELECTOR-77;",
    "!SELECTOR-78;!SELECTOR-79;!SELECTOR-80;!SELECTOR-81;!SELECTOR-82;!SELECTOR-83;!SELECTOR-84;",
    "!SELECTOR-85;!SELECTOR-86;!SELECTOR-87;!SELECTOR-88;!SELECTOR-89;!SELECTOR-90;!SELECTOR-91;",
    "!SELECTOR-92;!SELECTOR-93;!SELECTOR-94;!SELECTOR-95;!SELECTOR-96;!SELECTOR-97;!SELECTOR-98;",
    "!SELECTOR-99;!SELECTOR-100;!SELECTOR-101;!SELECTOR-102;!SELECTOR-103;!SELECTOR-104;",
    "!SELECTOR-105;!SELECTOR-106;!SELECTOR-107;!SELECTOR-108;!SELECTOR-109;!SELECTOR-110;",
    "!SELECTOR-111;!SELECTOR-112;!SELECTOR-113;!SELECTOR-114;!SELECTOR-115;!SELECTOR-116;",
    "!SELECTOR-117;!SELECTOR-118;!SELECTOR-119;!SELECTOR-120;!SELECTOR-121;!SELECTOR-122;",
    "!SELECTOR-123;!SELECTOR-124;!SELECTOR-125;!SELECTOR-126;!SELECTOR-127;!SELECTOR-128;",
    "!SELECTOR-129;!SELECTOR-130;!SELECTOR-131;!SELECTOR-132;!SELECTOR-133;!SELECTOR-134;",
    "!SELECTOR-135;!SELECTOR-136;!SELECTOR-137;!SELECTOR-138;!SELECTOR-139;!SELECTOR-140;",
    "!SELECTOR-141;!SELECTOR-142;!SELECTOR-143;!SELECTOR-144;!SELECTOR-145;!SELECTOR-146;",
    "!SELECTOR-147;!SELECTOR-148;!SELECTOR-149;!SELECTOR-150;!SELECTOR-151;!SELECTOR-152;",
    "!SELECTOR-153;!SELECTOR-154;!SELECTOR-155;!SELECTOR-156;!SELECTOR-157;!SELECTOR-158;",
    "!SELECTOR-159;!SELECTOR-160;!SELECTOR-161;!SELECTOR-162;!SELECTOR-163;!SELECTOR-164;",
    "!SELECTOR-165;!SELECTOR-166;!SELECTOR-167;!SELECTOR-168;!SELECTOR-169;!SELECTOR-170;",
    "!SELECTOR-171;!SELECTOR-172;!SELECTOR-173;!SELECTOR-174;!SELECTOR-175;!SELECTOR-176;",
    "!SELECTOR-177;!SELECTOR-178;!SELECTOR-179;!SELECTOR-180;!SELECTOR-181;!SELECTOR-182;",
    "!SELECTOR-183;!SELECTOR-184;!SELECTOR-185;!SELECTOR-186;!SELECTOR-187;!SELECTOR-188;",
    "!SELECTOR-189;!SELECTOR-190;!SELECTOR-191;!SELECTOR-192;!SELECTOR-193;!SELECTOR-194;",
    "!SELECTOR-195;!SELECTOR-196;!SELECTOR-197;!SELECTOR-198;!SELECTOR-199;!SELECTOR-200;",
    "!SELECTOR-201;!SELECTOR-202;!SELECTOR-203;!SELECTOR-204;!SELECTOR-205;!SELECTOR-206;",
    "!SELECTOR-207;!SELECTOR-208;!SELECTOR-209;!SELECTOR-210;!SELECTOR-211;!SELECTOR-212;",
    "!SELECTOR-213;!SELECTOR-214;!SELECTOR-215;!SELECTOR-216;!SELECTOR-217;!SELECTOR-218;",
    "!SELECTOR-219;!SELECTOR-220;!SELECTOR-221;!SELECTOR-222;!SELECTOR-223;!SELECTOR-224;",
    "!SELECTOR-225;!SELECTOR-226;!SELECTOR-227;!SELECTOR-228;!SELECTOR-229;!SELECTOR-230;",
    "!SELECTOR-231;!SELECTOR-232;!SELECTOR-233;!SELECTOR-234;!SELECTOR-235;!SELECTOR-236;",
    "!SELECTOR-237;!SELECTOR-238;!SELECTOR-239;!SELECTOR-240;!SELECTOR-241;!SELECTOR-242;",
    "!SELECTOR-243;!SELECTOR-244;!SELECTOR-245;!SELECTOR-246;!SELECTOR-247;!SELECTOR-248;",
    "!SELECTOR-249;!SELECTOR-250;!SELECTOR-251;!SELECTOR-252;!SELECTOR-253;!SELECTOR-254;",
    "!SELECTOR-255;!SELECTOR-256"])]

/-- The names of pictures of which writing was made. -/
def glyphNames : List (Nat × List String) := [
  (0x14400, ["ANATOLIAN HIEROGLYPH A001;#A002;#A003;#A004;#A005;#A006;#A007;#A008;#A009;#A010;",
    "#A010A;#A011;#A012;#A013;#A014;#A015;#A016;#A017;#A018;#A019;#A020;#A021;#A022;#A023;#A024;",
    "#A025;#A026;#A026A;#A027;#A028;#A029;#A030;#A031;#A032;#A033;#A034;#A035;#A036;#A037;#A038;",
    "#A039;#A039A;#A040;#A041;#A041A;#A042;#A043;#A044;#A045;#A045A;#A046;#A046A;#A046B;#A047;",
    "#A048;#A049;#A050;#A051;#A052;#A053;#A054;#A055;#A056;#A057;#A058;#A059;#A060;#A061;#A062;",
    "#A063;#A064;#A065;#A066;#A066A;#A066B;#A066C;#A067;#A068;#A069;#A070;#A071;#A072;#A073;",
    "#A074;#A075;#A076;#A077;#A078;#A079;#A080;#A081;#A082;#A083;#A084;#A085;#A086;#A087;#A088;",
    "#A089;#A090;#A091;#A092;#A093;#A094;#A095;#A096;#A097;#A097A;#A098;#A098A;#A099;#A100;",
    "#A100A;#A101;#A101A;#A102;#A102A;#A103;#A104;#A104A;#A104B;#A104C;#A105;#A105A;#A105B;",
    "#A106;#A107;#A107A;#A107B;#A107C;#A108;#A109;#A110;#A110A;#A110B;#A111;#A112;#A113;#A114;",
    "#A115;#A115A;#A116;#A117;#A118;#A119;#A120;#A121;#A122;#A123;#A124;#A125;#A125A;#A126;",
    "#A127;#A128;#A129;#A130;#A131;#A132;#A133;#A134;#A135;#A135A;#A136;#A137;#A138;#A139;#A140;",
    "#A141;#A142;#A143;#A144;#A145;#A146;#A147;#A148;#A149;#A150;#A151;#A152;#A153;#A154;#A155;",
    "#A156;#A157;#A158;#A159;#A160;#A161;#A162;#A163;#A164;#A165;#A166;#A167;#A168;#A169;#A170;",
    "#A171;#A172;#A173;#A174;#A175;#A176;#A177;#A178;#A179;#A180;#A181;#A182;#A183;#A184;#A185;",
    "#A186;#A187;#A188;#A189;#A190;#A191;#A192;#A193;#A194;#A195;#A196;#A197;#A198;#A199;#A200;",
    "#A201;#A202;#A202A;#A202B;#A203;#A204;#A205;#A206;#A207;#A207A;#A208;#A209;#A209A;#A210;",
    "#A211;#A212;#A213;#A214;#A215;#A215A;#A216;#A216A;#A217;#A218;#A219;#A220;#A221;#A222;",
    "#A223;#A224;#A225;#A226;#A227;#A227A;#A228;#A229;#A230;#A231;#A232;#A233;#A234;#A235;#A236;",
    "#A237;#A238;#A239;#A240;#A241;#A242;#A243;#A244;#A245;#A246;#A247;#A248;#A249;#A250;#A251;",
    "#A252;#A253;#A254;#A255;#A256;#A257;#A258;#A259;#A260;#A261;#A262;#A263;#A264;#A265;#A266;",
    "#A267;#A267A;#A268;#A269;#A270;#A271;#A272;#A273;#A274;#A275;#A276;#A277;#A278;#A279;#A280;",
    "#A281;#A282;#A283;#A284;#A285;#A286;#A287;#A288;#A289;#A289A;#A290;#A291;#A292;#A293;#A294;",
    "#A294A;#A295;#A296;#A297;#A298;#A299;#A299A;#A300;#A301;#A302;#A303;#A304;#A305;#A306;",
    "#A307;#A308;#A309;#A309A;#A310;#A311;#A312;#A313;#A314;#A315;#A316;#A317;#A318;#A319;#A320;",
    "#A321;#A322;#A323;#A324;#A325;#A326;#A327;#A328;#A329;#A329A;#A330;#A331;#A332A;#A332B;",
    "#A332C;#A333;#A334;#A335;#A336;#A336A;#A336B;#A336C;#A337;#A338;#A339;#A340;#A341;#A342;",
    "#A343;#A344;#A345;#A346;#A347;#A348;#A349;#A350;#A351;#A352;#A353;#A354;#A355;#A356;#A357;",
    "#A358;#A359;#A359A;#A360;#A361;#A362;#A363;#A364;#A364A;#A365;#A366;#A367;#A368;#A368A;",
    "#A369;#A370;#A371;#A371A;#A372;#A373;#A374;#A375;#A376;#A377;#A378;#A379;#A380;#A381;",
    "#A381A;#A382;#A383 RA OR RI;#A383A;#A384;#A385;#A386;#A386A;#A387;#A388;#A389;#A390;#A391;",
    "#A392;#A393pa;#A394;#A395;#A396;#A397;#A398;#A399;#A400;#A401;#A402;#A403;#A404;#A405;",
    "#A406;#A407;#A408;#A409;#A410 BEGIN LOGOGRAMoq;#A410A END LOGOGRAMoq;#A411;#A412;#A413;",
    "#A414;#A415;#A416;#A417;#A418;#A419;#A420;#A421;#A422;#A423;#A424;#A425;#A426;#A427;#A428;",
    "#A429;#A430;#A431;#A432;#A433;#A434;#A435;#A436;#A437;#A438;#A439;#A440;#A441;#A442;#A443;",
    "#A444;#A445;#A446;#A447;#A448;#A449;#A450;#A450A;#A451;#A452;#A453;#A454;#A455;#A456;#A457;",
    "#A457A;#A458;#A459;#A460;#A461;#A462;#A463;#A464;#A465;#A466;#A467;#A468;#A469;#A470;#A471;",
    "#A472;#A473;#A474;#A475;#A476;#A477;#A478;#A479;#A480;#A481;#A482;#A483;#A484;#A485;#A486;",
    "#A487;#A488;#A489;#A490;#A491;#A492;#A493;#A494;#A495;#A496;#A497;#A501;#A502;#A503;#A504;",
    "#A505;#A506;#A507;#A508;#A509;#A510;#A511;#A512;#A513;#A514;#A515;#A516;#A517;#A518;#A519;",
    "#A520;#A521;#A522;#A523;#A524;#A525;#A526;#A527;#A528;#A529;#A530"]),
  (0x16800, ["BAMUMaPHASE-A NGKUE MFON;$GBIEE FON;$PON MFON PIPAEMGBIEE;&PIPAEMBA;$NAA MFON;",
    "$SHUENSHUET;$TITA MFON;$NZA MFON;$SHINDA PA NJI;$PON PA NJI PIPAEMGBIEE;(PIPAEMBA;",
    "$MAEMBGBIEE;$TU MAEMBA;$NGANGU;$MAEMVEUX;$MANSUAE;$MVEUAENGAM;$SEUNYAM;$NTOQPEN;",
    "$KEUKEUTNDA;$NKINDI;$SUU;$NGKUENZEUM;$LAPAQ;$LET KUT;$NTAP MFAA;$MAEKEUP;$PASHAE;",
    "$GHEUAERAE;$PAMSHAE;$MON NGGEUAET;$NZUN MEUT;$U YUQ NAE;$GHEUAEGHEUAE;$NTAP NTAA;$SISA;",
    "$MGBASA;$MEUNJOMNDEUQ;$MOOMPUQ;$KAFA;$PA LEERAEWA;$NDA LEERAEWA;$PET;$MAEMKPEN;$NIKA;$PUP;",
    "$TUAEP;$LUAEP;$SONJAM;$TEUTEUWEN;$MAENYI;$KET;$NDAANGGEUAET;$KUOQ;$MOOMEUT;$SHUM;$LOMMAE;",
    "$FIRI;$ROM;$KPOQ;$SOQ;$MAP PIEET;$SHIRAE;$NTAP;$SHOQ NSHUT YUM;$NYIT MONGKEUAEQ;$PAARAE;",
    "$NKAARAE;$UNKNOWN;$NGGEN;$MAESI;$NJAM;$MBANYI;$NYET;$TEUAEN;$SOT;$PAAM;$NSHIEE;$MAEM;$NYI;",
    "$KAQ;$NSHA;$VEE;$LU;$NEN;$NAQ;$MBAQ;#PHASE-B NSHUET;$TU MAEMGBIEE;$SIEE;$SET TU;$LOM NTEUM;",
    "$MBA MAELEE;$KIEEM;$YEURAE;$MBAARAE;$KAM;$PEESHI;$YAFU LEERAEWA;$LAM NSHUT NYAM;",
    "$NTIEE SHEUOQ;$NDU NJAA;$GHEUGHEUAEM;$PIT;$TU NSIEE;$SHET NJAQ;$SHEUAEQTU;$MFON TEUAEQ;",
    "$MBIT MBAAKET;$NYI NTEUM;$KEUPUQ;$GHEUGHEN;$KEUYEUX;$LAANAE;$PARUM;$VEUM;$NGKINDI MVOP;",
    "$NGGEU MBU;$WUAET;$SAKEUAE;$TAAM;$MEUQ;$NGGUOQ;%rn;$MFIYAQ;$SUE;$MBEURI;$MONTIEEN;$NYAEMAE;",
    "$PUNGAAM;$MEUT NGGEET;$FEUX;$MBUOQ;$FEE;$KEUAEM;$MA NJEUAENA;%NJUQA;$LET;$NGGAAM;$NSEN;$MA;",
    "$KIQ;$NGOM;#PHASE-C NGKUE MAEMBA;$NZA;$YUM;$WANGKUOQ;$NGGEN;$NDEUAEREE;$NGKAQ;$GHARAE;",
    "$MBEEKEET;$GBAYI;$NYIR MKPARAQ MEUN;$NTU MBIT;$MBEUM;$PIRIEEN;$NDOMBU;$MBAA CABBAGE-TREE;",
    "$KEUSHEUAEP;$GHAP;$KEUKAQ;$YU MUOMAE;$NZEUM;$MBUE;$NSEUAEN;$MBIT;$YEUQ;$KPARAQ;$KAA;$SEUX;",
    "$NDIDA;$TAASHAE;$NJUEQ;$TITA YUE;$SUAET;$NGGUAEN NYAM;$VEUX;$NANSANAQ;$MA KEUAERI;$NTAA;",
    "$NGGUON;$LAP;$MBIRIEEN;$MGBASAQ;$NTEUNGBA;$TEUTEUX;$NGGUM;$FUE;$NDEUT;$NSA;$NSHAQ;$BUNG;",
    "$VEUAEPEN;$MBERAE;$RU;$NJAEM;$LAM;$TITUAEP;$NSUOT NGOM;$NJEEEE;$KET;$NGGU;$MAESI;$MBUAEM;",
    "$LU;$KUT;$NJAM;$NGOM;$WUP;$NGGUEET;$NSOM;$NTEN;$KUOP NKAARAE;$NSUN;$NDAM;$MA NSIEE;$YAA;",
    "$NDAP;$SHUEQ;$SETFON;$MBI;$MAEMBA;$MBANYI;$KEUSEUX;$MBEUX;$KEUM;$MBAA PICKET;$YUWOQ;$NJEUX;",
    "$MIEE;$MUAE;$SHIQ;$KEN LAW;%FATIGUE;$NGAQ;$NAQ;$LIQ;$PIN;$PEN;$TET;#PHASE-D MBUO;$WAP;$NJI;",
    "$MFON;$NJIEE;$LIEE;$NJEUT;$NSHEE;$NGGAAMAE;$NYAM;$WUAEN;$NGKUN;$SHEE;$NGKAP;$KEUAETMEUN;",
    "$TEUT;$SHEUAE;$NJAP;$SUE;$KET;$YAEMMAE;$KUOM;$SAP;$MFEUT;$NDEUX;$MALEERI;$MEUT;$SEUAEQ;",
    "$YEN;$NJEUAEM;$KEUOT MBUAE;$NGKEURI;$TU;$GHAA;$NGKYEE;$FEUFEUAET;$NDEE;$MGBOFUM;$LEUAEP;",
    "$NDON;$MONI;$MGBEUN;$PUUT;$MGBIEE;$MFO;$LUM;$NSIEEP;$MBAA;$KWAET;$NYET;$TEUAEN;$SOT;$YUWOQ;",
    "$KEUM;$RAEM;$TEEEE;$NGKEUAEQ;$MFEUAE;$NSIEET;$KEUP;$PIP;$PEUTAE;$NYUE;$LET;$NGGAAM;$MFIEE;",
    "$NGGWAEN;$YUOM;$PAP;$YUOP;$NDAM;$NTEUM;$SUAE;$KUN;$NGGEUX;$NGKIEE;$TUOT;$MEUN;$KUQ;$NSUM;",
    "$TEUN;$MAENJET;$NGGAP;$LEUM;$NGGUOM;$NSHUT;$NJUEQ;$GHEUAE;$KU;$RENya;$TAE;$TOQ;$NYI;$RII;",
    "$LEEEE;$MEEEE;$M;$SUU;$MU;$SHII;$SHEUX;$KYEE;$NU;$SHU;$NTEE;$PEE;$NI;$SHOQ;$PUQ;$MVOP;$LOQ;",
    "$REN MUCH;$TI;$NTUU;$MBAApi;$SAQ;$FAA;#PHASE-E NDAP;$TOON;$MBEUM;$LAP;$VOM;$LOON;$PAA;$SOM;",
    "$RAQ;$NSHUOP;$NDUN;$PUAE;$TAM;$NGKA;$KPEUX;$WUO;$SEE;$NGGEUAET;$PAAM;$TOO;$KUOP;$LOM;",
    "$NSHIEE;$NGOP;$MAEM;$NGKEUX;$NGOQ;$NSHUE;$RIMGBA;$NJEUX;$PEEM;$SAA;$NGGURAE;$MGBA;$GHEUX;",
    "$NGKEUAEM;$NJAEMLI;$MAP;$LOOT;$NGGEEEE;$NDIQ;$TAEN NTEUM;$SET;$PUM;$NDAA SOFTNESS;",
    "$NGGUAESHAE NYAM;$YIEE;$GHEUN;$TUAE;$YEUAE;$PO;$TUMAE;$KEUAE;$SUAEN;$TEUAEQ;$VEUAE;$WEUX;",
    "$LAAM;$PU;$TAAQ;$GHAAMAE;$NGEUREUT;$SHEUAEQ;$MGBEN;$MBEE;$NZAQ;$NKOM;$GBET;$TUM;$KUET;$YAP;",
    "$NYI CLEAVER;$YIT;$MFEUQ;$NDIAQ;$PIEEQ;$YUEQ;$LEUAEM;$FUE;$GBEUX;$NGKUP;$KET;$MAE;$NGKAAMI;",
    "$GHET;$FA;$NTUM;$PEUT;$YEUM;$NGGEUAE;$NYIxm;$NZUQ;$POON;$MIEE;$FUET;$NAE;$MUAE;$GHEUAE;",
    "$FU I;$MVI;$PUAQ;$NGKUM;$KUT;$PIET;$NTAP;$YEUAET;$NGGUP;$PA PEOPLE;$FU CALL;$FOM;$NJEE;$A;",
    "$TOQ;$O;$I;$LAQ;$PA PLURAL;$TAA;$TAQ;$NDAA MY HOUSE;$SHIQ;$YEUX;$NGUAE;$YUAEN;",
    "$YOQ SWIMMING;%COVER;$YUQ;$YUN;$KEUX;$PEUX;$NJEE EPOCH;$PUE;$WUE;$FEE;$VEE;$LU;$MI;$REUX;",
    "$RAE;$NGUAET;$wd;$SHO;$SHOQ;$FU REMEDY;$NA;$PI;$LOQ;$KO;$MEN;$MA;$MAQ;$TEU;$KI;$MON;$vo;",
    "$FAQ;$GHOM;#PHASE-F KA;$U;$KU;$EE;$REE;$TAE;$NYI;$LA;$RII;$RIEE;$MEEEE;$TAA;$NDAA;$NJAEM;",
    "$M;$SUU;$SHII;$SI;$SEUX;$KYEE;$KET;$NUAE;$NU;$NJUAE;$YOQ;$SHU;$YA;$NSHA;$PEUX;$NTEE;$WUE;",
    "$PEE;$RU;$NI;$REUX;$KEN;$NGKWAEN;$NGGA;$SHO;$PUAE;$FOM;$WA;$LI;$LOQ;$KO;$MBEN;$REN;$MA;$MO;",
    "$MBAA;$TET;$KPA;$SAMBA;$VUEQ"]),
  (0x16a40, ["MROaTA;#NGI;#YO;#MIM;#BA;#DA;#A;#PHI;#KHAI;#HAO;#DAI;#CHU;#KEAAE;#OL;#MAEM;#NIN;",
    "#PA;#OO;#O;#RO;#SHI;#THEA;#EA;#WA;#E;#KO;#LAN;#LA;#HAI;#RI;#TEK;;!qerx;#pk;#pj;#of;#pd;#ph;",
    "#rt;#pi;#pa;#ql"]),
  (0x16a6e, ["MROwk;!lwk;TANGSAaOZ;#OC;#OQ;#OX;#AZ;#AC;#AQ;#AX;#VZ;#VC;#VQ;#VX;#EZ;#EC;#EQ;#EX;",
    "#IZ;#IC;#IQ;#IX;#UZ;#UC;#UQ;#UX;#AWZ;#AWC;#AWQ;#AWX;#UIZ;#UIC;#UIQ;#UIX;#nNG;#sjUEX;#tdUEZ;",
    "$AWX;#UEC;#UEZ;#UEQ;#UEX;#UIUZ;#UIUC;#UIUQ;#UIUX;#MZ;#MC;#MQ;#MX;#KA;#xe;#GA;#wd;#SA;#YA;",
    "#WA;#PA;#xa;#yp;#BA;#MA;#NA;#HA;#LA;#HTA;#TA;#DA;#RA;#NHA;#wf;#CA;#TSA;#GHA;#HTTA;#xr;#XA;",
    "#FA;#zr;#wx;#ZA;;!qerx;#pk;#pj;#of;#pd;#ph;#rt;#pi;#pa;#ql"]),
  (0x16ad0, ["BASSA VAHaENNI;$KA;$SE;$FA;$MBE;$YIE;$GAH;$DHII;$KPAH;$JO;$HWAH;$WA;$ZO;$GBU;$DO;",
    "$CE;$UWU;$vt;$BA;$VU;$YEIN;$PA;$WADDA;$A;$O;$OO;$U;$EE;$E;$I;;;#rastsk;$uosk;$MIDsk;",
    "$LOW-MIDsk;$HIGH-LOWsk;#veta"]),
  (0x16b00, ["PAHAWH HMONGpvKEEB;$KEEV;$KIB;$KIV;$KAUB;$KAUV;$KUB;$KUV;$KEB;$KEV;$KAIB;$KAIV;",
    "$KOOB;$KOOV;$KAWB;$KAWV;$KUAB;$KUAV;$KOB;$KOV;$KIAB;$KIAV;$KAB;$KAV;$KWB;$KWV;$KAAB;$KAAV;",
    "#tkVAU;$NTSAU;$LAU;$HAU;$NLAU;$RAU;$NKAU;$QHAU;$YAU;$HLAU;$MAU;$CHAU;$NCHAU;$HNAU;$PLHAU;",
    "$NTHAU;$NAU;$AU;$XAU;$CAU;#oqCIM TUB;%SO;%KES;%KHAV;%SUAM;%HOM;%TAUM;#gVOS THOM;",
    "%TSHAB CEEB;$CIM CHEEM;$VOS THIAB;%FEEM;$XYEEM NTXIV;%RHO;%TOV;%FAIB;$VOS SEEV;$MEEJ SUAB;",
    "$VOS NRUA;$IB YAM;$XAUS;$CIM TSOV ROG"]),
  (0x16b50, ["PAHAWH HMONGqerx;$pk;$pj;$of;$pd;$ph;$rt;$pi;$pa;$ql;;#reTENS;$HUNDREDS;",
    "$voTHOUSANDS;$MILLIONS;$onMILLIONS;$voBILLIONS;$TRILLIONS;;#gVOS LUB;$XYOO;$HLI;",
    "$THIRD-STAGE HLI;$ZWJ THAJ;$HNUB;$NQIG;$XIAB;$NTUJ;$AV;$TXHEEJ CEEV;$MEEJ TSEEB;$TAU;$LOS;",
    "$MUS;$CIM HAIS LUS NTOG NTOG;%CUAM TSHOOJ;%TXWV;&CHWV;%PUB DAWB;%NRES TOS"]),
  (0x16b7d, ["PAHAWH HMONG CLANgTSHEEJ;%YEEG;%LIS;%LAUJ;%XYOOJ;%KOO;%HAWJ;%MUAS;%THOJ;%TSAB;",
    "%PHAB;%KHAB;%HAM;%VAJ;%FAJ;%YAJ;%TSWB;%KWM;%VWJ"]),
  (0x16e40, ["MEDEFAIDRINcaM;$S;$V;$W;$ATIU;$Z;$KP;$P;$T;$G;$F;$I;$K;$A;$J;$E;$B;$C;$U;$YU;$L;",
    "$Q;$HP;$NY;$X;$D;$OE;$N;$R;$O;$AI;$Y;!daM;$S;$V;$W;$ATIU;$Z;$KP;$P;$T;$G;$F;$I;$K;$A;$J;$E;",
    "$B;$C;$U;$YU;$L;$Q;$HP;$NY;$X;$D;$OE;$N;$R;$O;$AI;$Y;!qerx;#pk;#pj;#of;#pd;#ph;#rt;#pi;#pa;",
    "#ql;!revo;#ELEVEN;#TWELVE;#THIRTEEN;#FOURTEEN;#FIFTEEN;#SIXTEEN;#SEVENTEEN;#EIGHTEEN;",
    "#NINETEEN;!qepktje;#pjtje;#oftje;!sb;!veta;!ohAIVA;!rpOH"]),
  (0x16f00, ["MIAOaPA;#BA;#YI PA;#PLA;#MA;#MHA;#woMA;#FA;#VA;#VFA;#TA;#DA;#YIzl;$TA;#zl;#zm;#NA;",
    "#NHA;#YI NNA;#woNA;#NNA;#NNHA;#LA;#LYA;#LHA;#LHYA;#TLHA;#DLHA;#TLHYA;#DLHYA;#KA;#GA;#YI KA;",
    "#QA;#QGA;#wd;#NGHA;#wowd;#HA;#XA;#GHA;#GHHA;#TSSA;#DZZA;#xa;#NYHA;#TSHA;#DZHA;#YI TSHA;",
    "$DZHA;#REFORMED TSHA;#wf;#SSA;#ZHA;#ZSHA;#TSA;#DZA;#YI TSA;#SA;#ZA;#ZSA;#ZZA;#ZZSA;#woZZA;",
    "#ZZYA;#ZZSYA;#WA;#AH;#HHA;#BRI;#SYI;#DZYI;#TE;#TSE;#RTE"]),
  (0x16f4f, ["MIAOgtksrry;!aNASALIZATION;!gASPIRATION;#REFORMED VOICING;$ASPIRATION;!pvgA;$AA;",
    "$AHH;$AN;$ANG;$O;$OO;$WO;$W;$E;$EN;$ENG;$OEY;$I;$IA;$IAN;$IANG;$IO;$IE;$II;$IU;$ING;$U;$UA;",
    "$UAN;$UANG;$UU;$UEI;$UNG;$Y;$YI;$AE;$AEE;$ERR;$ROUNDED ERR;$ER;$ROUNDED ER;$AI;$EI;$AU;$OU;",
    "$N;$NG;$UOG;$YUI;$OG;$OER;$VW;$IG;$EA;$IONG;$UI"]),
  (0x16f8f, ["MIAOskh;#TOPh;#i;#m;!aTONE-2;#TONE-3;#TONE-4;#TONE-5;#TONE-6;#TONE-7;#TONE-8;",
    "#REFORMED TONE-1;$TONE-2;$TONE-4;$TONE-5;$TONE-6;$TONE-8"]),
  (0x16fe0, ["TANGUT ITERATIONoq;NUSHU ITERATIONoq;yaCHINESEpeoq;#ITERATIONoq;KHITANdwiFILLER"]),
  (0x16ff0, ["VIETNAMESEtjREADINGoqCA;%NHAY"])]

end Tweaks.Text
