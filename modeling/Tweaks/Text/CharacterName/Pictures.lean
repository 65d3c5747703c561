/-!
# Names of pictures, and signs of music and mathematics

The names that Unicode gives to characters, run by run: each after the other from the first one
of the run.  A mark at the start of a name says how many words it has in common with the one
before it, and small letters stand for common words.
-/

namespace Tweaks.Text

/-- The names of pictures, and signs of music and mathematics. -/
def pictureNames : List (Nat × List String) := [
  (0x18800, ["TANGUT COMPONENT-001;!COMPONENT-002;!COMPONENT-003;!COMPONENT-004;!COMPONENT-005;",
    "!COMPONENT-006;!COMPONENT-007;!COMPONENT-008;!COMPONENT-009;!COMPONENT-010;!COMPONENT-011;",
    "!COMPONENT-012;!COMPONENT-013;!COMPONENT-014;!COMPONENT-015;!COMPONENT-016;!COMPONENT-017;",
    "!COMPONENT-018;!COMPONENT-019;!COMPONENT-020;!COMPONENT-021;!COMPONENT-022;!COMPONENT-023;",
    "!COMPONENT-024;!COMPONENT-025;!COMPONENT-026;!COMPONENT-027;!COMPONENT-028;!COMPONENT-029;",
    "!COMPONENT-030;!COMPONENT-031;!COMPONENT-032;!COMPONENT-033;!COMPONENT-034;!COMPONENT-035;",
    "!COMPONENT-036;!COMPONENT-037;!COMPONENT-038;!COMPONENT-039;!COMPONENT-040;!COMPONENT-041;",
    "!COMPONENT-042;!COMPONENT-043;!COMPONENT-044;!COMPONENT-045;!COMPONENT-046;!COMPONENT-047;",
    "!COMPONENT-048;!COMPONENT-049;!COMPONENT-050;!COMPONENT-051;!COMPONENT-052;!COMPONENT-053;",
    "!COMPONENT-054;!COMPONENT-055;!COMPONENT-056;!COMPONENT-057;!COMPONENT-058;!COMPONENT-059;",
    "!COMPONENT-060;!COMPONENT-061;!COMPONENT-062;!COMPONENT-063;!COMPONENT-064;!COMPONENT-065;",
    "!COMPONENT-066;!COMPONENT-067;!COMPONENT-068;!COMPONENT-069;!COMPONENT-070;!COMPONENT-071;",
    "!COMPONENT-072;!COMPONENT-073;!COMPONENT-074;!COMPONENT-075;!COMPONENT-076;!COMPONENT-077;",
    "!COMPONENT-078;!COMPONENT-079;!COMPONENT-080;!COMPONENT-081;!COMPONENT-082;!COMPONENT-083;",
    "!COMPONENT-084;!COMPONENT-085;!COMPONENT-086;!COMPONENT-087;!COMPONENT-088;!COMPONENT-089;",
    "!COMPONENT-090;!COMPONENT-091;!COMPONENT-092;!COMPONENT-093;!COMPONENT-094;!COMPONENT-095;",
    "!COMPONENT-096;!COMPONENT-097;!COMPONENT-098;!COMPONENT-099;!COMPONENT-100;!COMPONENT-101;",
    "!COMPONENT-102;!COMPONENT-103;!COMPONENT-104;!COMPONENT-105;!COMPONENT-106;!COMPONENT-107;",
    "!COMPONENT-108;!COMPONENT-109;!COMPONENT-110;!COMPONENT-111;!COMPONENT-112;!COMPONENT-113;",
    "!COMPONENT-114;!COMPONENT-115;!COMPONENT-116;!COMPONENT-117;!COMPONENT-118;!COMPONENT-119;",
    "!COMPONENT-120;!COMPONENT-121;!COMPONENT-122;!COMPONENT-123;!COMPONENT-124;!COMPONENT-125;",
    "!COMPONENT-126;!COMPONENT-127;!COMPONENT-128;!COMPONENT-129;!COMPONENT-130;!COMPONENT-131;",
    "!COMPONENT-132;!COMPONENT-133;!COMPONENT-134;!COMPONENT-135;!COMPONENT-136;!COMPONENT-137;",
    "!COMPONENT-138;!COMPONENT-139;!COMPONENT-140;!COMPONENT-141;!COMPONENT-142;!COMPONENT-143;",
    "!COMPONENT-144;!COMPONENT-145;!COMPONENT-146;!COMPONENT-147;!COMPONENT-148;!COMPONENT-149;",
    "!COMPONENT-150;!COMPONENT-151;!COMPONENT-152;!COMPONENT-153;!COMPONENT-154;!COMPONENT-155;",
    "!COMPONENT-156;!COMPONENT-157;!COMPONENT-158;!COMPONENT-159;!COMPONENT-160;!COMPONENT-161;",
    "!COMPONENT-162;!COMPONENT-163;!COMPONENT-164;!COMPONENT-165;!COMPONENT-166;!COMPONENT-167;",
    "!COMPONENT-168;!COMPONENT-169;!COMPONENT-170;!COMPONENT-171;!COMPONENT-172;!COMPONENT-173;",
    "!COMPONENT-174;!COMPONENT-175;!COMPONENT-176;!COMPONENT-177;!COMPONENT-178;!COMPONENT-179;",
    "!COMPONENT-180;!COMPONENT-181;!COMPONENT-182;!COMPONENT-183;!COMPONENT-184;!COMPONENT-185;",
    "!COMPONENT-186;!COMPONENT-187;!COMPONENT-188;!COMPONENT-189;!COMPONENT-190;!COMPONENT-191;",
    "!COMPONENT-192;!COMPONENT-193;!COMPONENT-194;!COMPONENT-195;!COMPONENT-196;!COMPONENT-197;",
    "!COMPONENT-198;!COMPONENT-199;!COMPONENT-200;!COMPONENT-201;!COMPONENT-202;!COMPONENT-203;",
    "!COMPONENT-204;!COMPONENT-205;!COMPONENT-206;!COMPONENT-207;!COMPONENT-208;!COMPONENT-209;",
    "!COMPONENT-210;!COMPONENT-211;!COMPONENT-212;!COMPONENT-213;!COMPONENT-214;!COMPONENT-215;",
    "!COMPONENT-216;!COMPONENT-217;!COMPONENT-218;!COMPONENT-219;!COMPONENT-220;!COMPONENT-221;",
    "!COMPONENT-222;!COMPONENT-223;!COMPONENT-224;!COMPONENT-225;!COMPONENT-226;!COMPONENT-227;",
    "!COMPONENT-228;!COMPONENT-229;!COMPONENT-230;!COMPONENT-231;!COMPONENT-232;!COMPONENT-233;",
    "!COMPONENT-234;!COMPONENT-235;!COMPONENT-236;!COMPONENT-237;!COMPONENT-238;!COMPONENT-239;",
    "!COMPONENT-240;!COMPONENT-241;!COMPONENT-242;!COMPONENT-243;!COMPONENT-244;!COMPONENT-245;",
    "!COMPONENT-246;!COMPONENT-247;!COMPONENT-248;!COMPONENT-249;!COMPONENT-250;!COMPONENT-251;",
    "!COMPONENT-252;!COMPONENT-253;!COMPONENT-254;!COMPONENT-255;!COMPONENT-256;!COMPONENT-257;",
    "!COMPONENT-258;!COMPONENT-259;!COMPONENT-260;!COMPONENT-261;!COMPONENT-262;!COMPONENT-263;",
    "!COMPONENT-264;!COMPONENT-265;!COMPONENT-266;!COMPONENT-267;!COMPONENT-268;!COMPONENT-269;",
    "!COMPONENT-270;!COMPONENT-271;!COMPONENT-272;!COMPONENT-273;!COMPONENT-274;!COMPONENT-275;",
    "!COMPONENT-276;!COMPONENT-277;!COMPONENT-278;!COMPONENT-279;!COMPONENT-280;!COMPONENT-281;",
    "!COMPONENT-282;!COMPONENT-283;!COMPONENT-284;!COMPONENT-285;!COMPONENT-286;!COMPONENT-287;",
    "!COMPONENT-288;!COMPONENT-289;!COMPONENT-290;!COMPONENT-291;!COMPONENT-292;!COMPONENT-293;",
    "!COMPONENT-294;!COMPONENT-295;!COMPONENT-296;!COMPONENT-297;!COMPONENT-298;!COMPONENT-299;",
    "!COMPONENT-300;!COMPONENT-301;!COMPONENT-302;!COMPONENT-303;!COMPONENT-304;!COMPONENT-305;",
    "!COMPONENT-306;!COMPONENT-307;!COMPONENT-308;!COMPONENT-309;!COMPONENT-310;!COMPONENT-311;",
    "!COMPONENT-312;!COMPONENT-313;!COMPONENT-314;!COMPONENT-315;!COMPONENT-316;!COMPONENT-317;",
    "!COMPONENT-318;!COMPONENT-319;!COMPONENT-320;!COMPONENT-321;!COMPONENT-322;!COMPONENT-323;",
    "!COMPONENT-324;!COMPONENT-325;!COMPONENT-326;!COMPONENT-327;!COMPONENT-328;!COMPONENT-329;",
    "!COMPONENT-330;!COMPONENT-331;!COMPONENT-332;!COMPONENT-333;!COMPONENT-334;!COMPONENT-335;",
    "!COMPONENT-336;!COMPONENT-337;!COMPONENT-338;!COMPONENT-339;!COMPONENT-340;!COMPONENT-341;",
    "!COMPONENT-342;!COMPONENT-343;!COMPONENT-344;!COMPONENT-345;!COMPONENT-346;!COMPONENT-347;",
    "!COMPONENT-348;!COMPONENT-349;!COMPONENT-350;!COMPONENT-351;!COMPONENT-352;!COMPONENT-353;",
    "!COMPONENT-354;!COMPONENT-355;!COMPONENT-356;!COMPONENT-357;!COMPONENT-358;!COMPONENT-359;",
    "!COMPONENT-360;!COMPONENT-361;!COMPONENT-362;!COMPONENT-363;!COMPONENT-364;!COMPONENT-365;",
    "!COMPONENT-366;!COMPONENT-367;!COMPONENT-368;!COMPONENT-369;!COMPONENT-370;!COMPONENT-371;",
    "!COMPONENT-372;!COMPONENT-373;!COMPONENT-374;!COMPONENT-375;!COMPONENT-376;!COMPONENT-377;",
    "!COMPONENT-378;!COMPONENT-379;!COMPONENT-380;!COMPONENT-381;!COMPONENT-382;!COMPONENT-383;",
    "!COMPONENT-384;!COMPONENT-385;!COMPONENT-386;!COMPONENT-387;!COMPONENT-388;!COMPONENT-389;",
    "!COMPONENT-390;!COMPONENT-391;!COMPONENT-392;!COMPONENT-393;!COMPONENT-394;!COMPONENT-395;",
    "!COMPONENT-396;!COMPONENT-397;!COMPONENT-398;!COMPONENT-399;!COMPONENT-400;!COMPONENT-401;",
    "!COMPONENT-402;!COMPONENT-403;!COMPONENT-404;!COMPONENT-405;!COMPONENT-406;!COMPONENT-407;",
    "!COMPONENT-408;!COMPONENT-409;!COMPONENT-410;!COMPONENT-411;!COMPONENT-412;!COMPONENT-413;",
    "!COMPONENT-414;!COMPONENT-415;!COMPONENT-416;!COMPONENT-417;!COMPONENT-418;!COMPONENT-419;",
    "!COMPONENT-420;!COMPONENT-421;!COMPONENT-422;!COMPONENT-423;!COMPONENT-424;!COMPONENT-425;",
    "!COMPONENT-426;!COMPONENT-427;!COMPONENT-428;!COMPONENT-429;!COMPONENT-430;!COMPONENT-431;",
    "!COMPONENT-432;!COMPONENT-433;!COMPONENT-434;!COMPONENT-435;!COMPONENT-436;!COMPONENT-437;",
    "!COMPONENT-438;!COMPONENT-439;!COMPONENT-440;!COMPONENT-441;!COMPONENT-442;!COMPONENT-443;",
    "!COMPONENT-444;!COMPONENT-445;!COMPONENT-446;!COMPONENT-447;!COMPONENT-448;!COMPONENT-449;",
    "!COMPONENT-450;!COMPONENT-451;!COMPONENT-452;!COMPONENT-453;!COMPONENT-454;!COMPONENT-455;",
    "!COMPONENT-456;!COMPONENT-457;!COMPONENT-458;!COMPONENT-459;!COMPONENT-460;!COMPONENT-461;",
    "!COMPONENT-462;!COMPONENT-463;!COMPONENT-464;!COMPONENT-465;!COMPONENT-466;!COMPONENT-467;",
    "!COMPONENT-468;!COMPONENT-469;!COMPONENT-470;!COMPONENT-471;!COMPONENT-472;!COMPONENT-473;",
    "!COMPONENT-474;!COMPONENT-475;!COMPONENT-476;!COMPONENT-477;!COMPONENT-478;!COMPONENT-479;",
    "!COMPONENT-480;!COMPONENT-481;!COMPONENT-482;!COMPONENT-483;!COMPONENT-484;!COMPONENT-485;",
    "!COMPONENT-486;!COMPONENT-487;!COMPONENT-488;!COMPONENT-489;!COMPONENT-490;!COMPONENT-491;",
    "!COMPONENT-492;!COMPONENT-493;!COMPONENT-494;!COMPONENT-495;!COMPONENT-496;!COMPONENT-497;",
    "!COMPONENT-498;!COMPONENT-499;!COMPONENT-500;!COMPONENT-501;!COMPONENT-502;!COMPONENT-503;",
    "!COMPONENT-504;!COMPONENT-505;!COMPONENT-506;!COMPONENT-507;!COMPONENT-508;!COMPONENT-509;",
    "!COMPONENT-510;!COMPONENT-511;!COMPONENT-512;!COMPONENT-513;!COMPONENT-514;!COMPONENT-515;",
    "!COMPONENT-516;!COMPONENT-517;!COMPONENT-518;!COMPONENT-519;!COMPONENT-520;!COMPONENT-521;",
    "!COMPONENT-522;!COMPONENT-523;!COMPONENT-524;!COMPONENT-525;!COMPONENT-526;!COMPONENT-527;",
    "!COMPONENT-528;!COMPONENT-529;!COMPONENT-530;!COMPONENT-531;!COMPONENT-532;!COMPONENT-533;",
    "!COMPONENT-534;!COMPONENT-535;!COMPONENT-536;!COMPONENT-537;!COMPONENT-538;!COMPONENT-539;",
    "!COMPONENT-540;!COMPONENT-541;!COMPONENT-542;!COMPONENT-543;!COMPONENT-544;!COMPONENT-545;",
    "!COMPONENT-546;!COMPONENT-547;!COMPONENT-548;!COMPONENT-549;!COMPONENT-550;!COMPONENT-551;",
    "!COMPONENT-552;!COMPONENT-553;!COMPONENT-554;!COMPONENT-555;!COMPONENT-556;!COMPONENT-557;",
    "!COMPONENT-558;!COMPONENT-559;!COMPONENT-560;!COMPONENT-561;!COMPONENT-562;!COMPONENT-563;",
    "!COMPONENT-564;!COMPONENT-565;!COMPONENT-566;!COMPONENT-567;!COMPONENT-568;!COMPONENT-569;",
    "!COMPONENT-570;!COMPONENT-571;!COMPONENT-572;!COMPONENT-573;!COMPONENT-574;!COMPONENT-575;",
    "!COMPONENT-576;!COMPONENT-577;!COMPONENT-578;!COMPONENT-579;!COMPONENT-580;!COMPONENT-581;",
    "!COMPONENT-582;!COMPONENT-583;!COMPONENT-584;!COMPONENT-585;!COMPONENT-586;!COMPONENT-587;",
    "!COMPONENT-588;!COMPONENT-589;!COMPONENT-590;!COMPONENT-591;!COMPONENT-592;!COMPONENT-593;",
    "!COMPONENT-594;!COMPONENT-595;!COMPONENT-596;!COMPONENT-597;!COMPONENT-598;!COMPONENT-599;",
    "!COMPONENT-600;!COMPONENT-601;!COMPONENT-602;!COMPONENT-603;!COMPONENT-604;!COMPONENT-605;",
    "!COMPONENT-606;!COMPONENT-607;!COMPONENT-608;!COMPONENT-609;!COMPONENT-610;!COMPONENT-611;",
    "!COMPONENT-612;!COMPONENT-613;!COMPONENT-614;!COMPONENT-615;!COMPONENT-616;!COMPONENT-617;",
    "!COMPONENT-618;!COMPONENT-619;!COMPONENT-620;!COMPONENT-621;!COMPONENT-622;!COMPONENT-623;",
    "!COMPONENT-624;!COMPONENT-625;!COMPONENT-626;!COMPONENT-627;!COMPONENT-628;!COMPONENT-629;",
    "!COMPONENT-630;!COMPONENT-631;!COMPONENT-632;!COMPONENT-633;!COMPONENT-634;!COMPONENT-635;",
    "!COMPONENT-636;!COMPONENT-637;!COMPONENT-638;!COMPONENT-639;!COMPONENT-640;!COMPONENT-641;",
    "!COMPONENT-642;!COMPONENT-643;!COMPONENT-644;!COMPONENT-645;!COMPONENT-646;!COMPONENT-647;",
    "!COMPONENT-648;!COMPONENT-649;!COMPONENT-650;!COMPONENT-651;!COMPONENT-652;!COMPONENT-653;",
    "!COMPONENT-654;!COMPONENT-655;!COMPONENT-656;!COMPONENT-657;!COMPONENT-658;!COMPONENT-659;",
    "!COMPONENT-660;!COMPONENT-661;!COMPONENT-662;!COMPONENT-663;!COMPONENT-664;!COMPONENT-665;",
    "!COMPONENT-666;!COMPONENT-667;!COMPONENT-668;!COMPONENT-669;!COMPONENT-670;!COMPONENT-671;",
    "!COMPONENT-672;!COMPONENT-673;!COMPONENT-674;!COMPONENT-675;!COMPONENT-676;!COMPONENT-677;",
    "!COMPONENT-678;!COMPONENT-679;!COMPONENT-680;!COMPONENT-681;!COMPONENT-682;!COMPONENT-683;",
    "!COMPONENT-684;!COMPONENT-685;!COMPONENT-686;!COMPONENT-687;!COMPONENT-688;!COMPONENT-689;",
    "!COMPONENT-690;!COMPONENT-691;!COMPONENT-692;!COMPONENT-693;!COMPONENT-694;!COMPONENT-695;",
    "!COMPONENT-696;!COMPONENT-697;!COMPONENT-698;!COMPONENT-699;!COMPONENT-700;!COMPONENT-701;",
    "!COMPONENT-702;!COMPONENT-703;!COMPONENT-704;!COMPONENT-705;!COMPONENT-706;!COMPONENT-707;",
    "!COMPONENT-708;!COMPONENT-709;!COMPONENT-710;!COMPONENT-711;!COMPONENT-712;!COMPONENT-713;",
    "!COMPONENT-714;!COMPONENT-715;!COMPONENT-716;!COMPONENT-717;!COMPONENT-718;!COMPONENT-719;",
    "!COMPONENT-720;!COMPONENT-721;!COMPONENT-722;!COMPONENT-723;!COMPONENT-724;!COMPONENT-725;",
    "!COMPONENT-726;!COMPONENT-727;!COMPONENT-728;!COMPONENT-729;!COMPONENT-730;!COMPONENT-731;",
    "!COMPONENT-732;!COMPONENT-733;!COMPONENT-734;!COMPONENT-735;!COMPONENT-736;!COMPONENT-737;",
    "!COMPONENT-738;!COMPONENT-739;!COMPONENT-740;!COMPONENT-741;!COMPONENT-742;!COMPONENT-743;",
    "!COMPONENT-744;!COMPONENT-745;!COMPONENT-746;!COMPONENT-747;!COMPONENT-748;!COMPONENT-749;",
    "!COMPONENT-750;!COMPONENT-751;!COMPONENT-752;!COMPONENT-753;!COMPONENT-754;!COMPONENT-755;",
    "!COMPONENT-756;!COMPONENT-757;!COMPONENT-758;!COMPONENT-759;!COMPONENT-760;!COMPONENT-761;",
    "!COMPONENT-762;!COMPONENT-763;!COMPONENT-764;!COMPONENT-765;!COMPONENT-766;!COMPONENT-767;",
    "!COMPONENT-768"]),
  (0x1aff0, ["zxaMINNAN TONE-2;$TONE-3;$TONE-4;$TONE-5;;$TONE-7;$TONE-8;$NASALIZED TONE-1;",
    "%TONE-2;%TONE-3;%TONE-4;%TONE-5;;%TONE-7;%TONE-8;;#woE;HIRAGANAawoYE;HENTAIGANAaA-1;#A-2;",
    "#A-3;#A-WO;#I-1;#I-2;#I-3;#I-4;#U-1;#U-2;#U-3;#U-4;#U-5;#E-2;#E-3;#E-4;#E-5;#E-6;#O-1;#O-2;",
    "#O-3;#KA-1;#KA-2;#KA-3;#KA-4;#KA-5;#KA-6;#KA-7;#KA-8;#KA-9;#KA-10;#KA-11;#KA-KE;#KI-1;",
    "#KI-2;#KI-3;#KI-4;#KI-5;#KI-6;#KI-7;#KI-8;#KU-1;#KU-2;#KU-3;#KU-4;#KU-5;#KU-6;#KU-7;#KE-1;",
    "#KE-2;#KE-3;#KE-4;#KE-5;#KE-6;#KO-1;#KO-2;#KO-3;#KO-KI;#SA-1;#SA-2;#SA-3;#SA-4;#SA-5;#SA-6;",
    "#SA-7;#SA-8;#SI-1;#SI-2;#SI-3;#SI-4;#SI-5;#SI-6;#SU-1;#SU-2;#SU-3;#SU-4;#SU-5;#SU-6;#SU-7;",
    "#SU-8;#SE-1;#SE-2;#SE-3;#SE-4;#SE-5;#SO-1;#SO-2;#SO-3;#SO-4;#SO-5;#SO-6;#SO-7;#TA-1;#TA-2;",
    "#TA-3;#TA-4;#TI-1;#TI-2;#TI-3;#TI-4;#TI-5;#TI-6;#TI-7;#TU-1;#TU-2;#TU-3;#TU-4;#TU-TO;#TE-1;",
    "#TE-2;#TE-3;#TE-4;#TE-5;#TE-6;#TE-7;#TE-8;#TE-9;#TO-1;#TO-2;#TO-3;#TO-4;#TO-5;#TO-6;#TO-RA;",
    "#NA-1;#NA-2;#NA-3;#NA-4;#NA-5;#NA-6;#NA-7;#NA-8;#NA-9;#NI-1;#NI-2;#NI-3;#NI-4;#NI-5;#NI-6;",
    "#NI-7;#NI-TE;#NU-1;#NU-2;#NU-3;#NE-1;#NE-2;#NE-3;#NE-4;#NE-5;#NE-6;#NE-KO;#NO-1;#NO-2;",
    "#NO-3;#NO-4;#NO-5;#HA-1;#HA-2;#HA-3;#HA-4;#HA-5;#HA-6;#HA-7;#HA-8;#HA-9;#HA-10;#HA-11;",
    "#HI-1;#HI-2;#HI-3;#HI-4;#HI-5;#HI-6;#HI-7;#HU-1;#HU-2;#HU-3;#HE-1;#HE-2;#HE-3;#HE-4;#HE-5;",
    "#HE-6;#HE-7;#HO-1;#HO-2;#HO-3;#HO-4;#HO-5;#HO-6;#HO-7;#HO-8;#MA-1;#MA-2;#MA-3;#MA-4;#MA-5;",
    "#MA-6;#MA-7;#MI-1;#MI-2;#MI-3;#MI-4;#MI-5;#MI-6;#MI-7;#MU-1;#MU-2;#MU-3;#MU-4;#ME-1;#ME-2;",
    "#ME-MA;#MO-1;#MO-2;#MO-3;#MO-4;#MO-5;#MO-6;#YA-1;#YA-2;#YA-3;#YA-4;#YA-5;#YA-YO;#YU-1;",
    "#YU-2;#YU-3;#YU-4;#YO-1;#YO-2;#YO-3;#YO-4;#YO-5;#YO-6;#RA-1;#RA-2;#RA-3;#RA-4;#RI-1;#RI-2;",
    "#RI-3;#RI-4;#RI-5;#RI-6;#RI-7;#RU-1;#RU-2;#RU-3;#RU-4;#RU-5;#RU-6;#RE-1;#RE-2;#RE-3;#RE-4;",
    "#RO-1;#RO-2;#RO-3;#RO-4;#RO-5;#RO-6;#WA-1;#WA-2;#WA-3;#WA-4;#WA-5;#WI-1;#WI-2;#WI-3;#WI-4;",
    "#WI-5;#WE-1;#WE-2;#WE-3;#WE-4;#WO-1;#WO-2;#WO-3;#WO-4;#WO-5;#WO-6;#WO-7;#N-MU-MO-1;",
    "#N-MU-MO-2;HIRAGANAawoWU;zxawoYI;$YE;$WU"]),
  (0x1b150, ["HIRAGANAadWI;$WE;$WO"]),
  (0x1b164, ["zxadWI;$WE;$WO;$N"]),
  (0x1bc00, ["DUPLOYANaH;#X;#P;#T;#F;#K;#L;#B;#D;#V;#G;#R;#P N;#D S;#F N;#K M;#R S;#TH;",
    "#SLOAN DH;#DH;#KK;#SLOAN J;#HL;#LH;#RH;#M;#N;#J;#S;#M N;#N M;#J M;#S J;#Mbpn;#Nbpn;#Jbpn;",
    "%qyyeoji;#Sbpn;&m;#M S;#N S;#J S;#S S;#M N S;#N M S;#J M S;#S J S;#J Sbpn;$N;%S;#S T;%R;$P;",
    "%R;#T S;$R S;#W;#WH;#W R;#S N;$M;#K R S;#G R S;#S K;%R;#A;#SLOAN OW;#OA;#O;#AOU;#I;#E;#IE;",
    "#tdI;#UI;#EE;#SLOAN EH;#ROMANIAN I;#SLOAN EE;#sjI;#YE;#U;#EU;#XW;#U N;#sjU;#ROMANIAN U;#UH;",
    "#SLOAN U;#OOH;#OW;#OU;#WA;#WO;#WI;#WEI;#WOW;#NASAL U;$O;$I;$A;#PERNIN AN;$AM;#SLOAN EN;$AN;",
    "$ON;#qoM"]),
  (0x1bc70, ["DUPLOYAN AFFIXodoiSECANT;#MIDoiSECANT;#hoiSECANT;#uoobSECANT;#MIDobSECANT;",
    "#stobSECANT;#ATTACHED SECANT;$LEFT-TO-RIGHT SECANT;$TANGENT;$us;$Epe;$Ipe;$TANGENTpe;;;;",
    "#stqm;$TIGHTqm;$rq;$sjrq;$pn;$pc;$tq;$WAVE;$ob"]),
  (0x1bc90, ["DUPLOYAN AFFIXuoqm;$TIGHTqm;$rq;$sjrq;$pn;$pc;$tq;$WAVE;$ob;$f;;;!gObtt;",
    "!THICKaSELECTOR;!loq;!psCHINOOKveta;SHORTHAND FORMATaOVERLAP;#CONTINUING OVERLAP;#qjSTEP;",
    "#ytSTEP"]),
  (0x1cf00, ["ZNAMENNYraoqGORAZDO NIZKO S KRYZHEM ONod;$NIZKO S KRYZHEM ONod;$TSATA ONod;",
    "$GORAZDO NIZKO ONod;$NIZKO ONod;$SREDNE ONod;$MALO POVYSHE ONod;$POVYSHE ONod;$VYSOKO ONod;",
    "$MALO POVYSHE S KHOKHLOM ONod;$POVYSHE S KHOKHLOM ONod;$VYSOKO S KHOKHLOM ONod;",
    "$GORAZDO NIZKO S KRYZHEM ONh;$NIZKO S KRYZHEM ONh;$TSATA ONh;$GORAZDO NIZKO ONh;$NIZKO ONh;",
    "$SREDNE ONh;$MALO POVYSHE ONh;$POVYSHE ONh;$VYSOKO ONh;$MALO POVYSHE S KHOKHLOM ONh;",
    "$POVYSHE S KHOKHLOM ONh;$VYSOKO S KHOKHLOM ONh;$TSATA S KRYZHEM;$MALO POVYSHE S KRYZHEM;",
    "$STRANNO MALO POVYSHE;$POVYSHE S KRYZHEM;%STRANNO;$VYSOKO S KRYZHEM;$MALO POVYSHE STRANNO;",
    "$GORAZDO VYSOKO;$ZELO;$ON;$RAVNO;$TIKHAYA;$BORZAYA;$UDARKA;$PODVERTKA;$LOMKA;$KUPNAYA;",
    "$KACHKA;$ZEVOK;$SKOBA;$RAZSEKA;$KRYZH ONod;;;#TONAL RANGEoqMRACHNO;&SVETLO;&TRESVETLO;",
    "#oqZADERZHKA;$DEMESTVENNY ZADERZHKA;$OTSECHKA;$PODCHASHIE;%bobog;$CHASHKA;%POLNAYA;",
    "$OBLACHKO;$SOROCHYA NOZHKA;$TOCHKA;$DVOETOCHIE;#ATTACHINGobOMET;#oqCURVED OMET;$KRYZH;",
    "#qfTONAL RANGE INDICATOR;!PRIZNAKsrLEVEL-2;$LEVEL-3;$DIRECTION FLIP;$KRYZH;$ROG"]),
  (0x1cf50, ["ZNAMENNY NEUME KRYUK;$TIKHY;#PARAKLIT;#DVA V CHELNU;#KLYUCH;#ZANOZHEK;#STOPITSA;",
    "$S OCHKOM;#PEREVODKA;$NEPOSTOYANNAYA;#STOPITSAbSOROCHYA NOZHKA;#CHELYUSTKA;#PALKA;",
    "#ZAPYATAYA;#GOLUBCHIK BORZY;$TIKHY;$MRACHNY;$SVETLY;$TRESVETLY;#VRAKHIYA PROSTAYA;",
    "$MRACHNAYA;$SVETLAYA;$TRESVETLAYA;$KLYUCHEVAYA PROSTAYA;%MRACHNAYA;%SVETLAYA;%TRESVETLAYA;",
    "#lZAPYATAYA;#pgCHELYUSTKA;#DERBITSA;#KHAMILO;#CHASHKA;#PODCHASHIE;#SKAMEYTSA MRACHNAYA;",
    "$SVETLAYA;$TRESVETLAYA;$TIKHAYA;#DEMESTVENNY KLYUCH;#SKAMEYTSA KLYUCHEVAYA SVETLAYA;",
    "$KLYUCHENEPOSTOYANNAYA;$KLYUCHEVAYA TIKHAYA;$DVOECHELNAYA PROSTAYA;%SVETLAYA;",
    "%NEPOSTOYANNAYA;%KLYUCHEVAYA;#SLOZHITIE;$S ZAPYATOY;$ZAKRYTOE;$S KRYZHEM;#KRYZH;#ROG;#FITA;",
    "#KOBYLA;#ZMEYTSA;#STATYA;$S ZAPYATOY;%KRYZHEM;%ZAPYATOY I KRYZHEM;%KRYZHEM I ZAPYATOY;",
    "$ZAKRYTAYA;%S ZAPYATOY;$S ROGOM;%DVUMYA ZAPYATYMI;%ZAPYATOY I PODCHASHIEM;#POLKULIZMY;",
    "#STATYA NEPOSTOYANNAYA;#STRELA PROSTAYA;$MRACHNOTIKHAYA;$KRYZHEVAYA;$POLUPOVODNAYA;",
    "$POVODNAYA;$NEPOSTOYANNAYA;$KLYUCHEPOVODNAYA;$KLYUCHENEPOSTOYANNAYA;$TIKHAYA PUTNAYA;",
    "$DVOECHELNAYA;$DVOECHELNOKRYZHEVAYA;$DVOECHELNOPOVODNAYA;$DVOECHELNAYA KLYUCHEVAYA;",
    "$DVOECHELNOPOVODNAYA KLYUCHEVAYA;$GROMNAYAbqrZAPYATAYA;$GROMOPOVODNAYAbqrZAPYATAYA;",
    "$GROMNAYA;$GROMOPOVODNAYA;%blZAPYATAYA;$GROMOKRYZHEVAYA;%POVODNAYA;#MECHIK;$POVODNY;",
    "$KLYUCHEVOY;$KLYUCHEPOVODNY;$KLYUCHENEPOSTOYANNY;#STRELA TRYASOGLASNAYA;$TRYASOPOVODNAYA;",
    "$TRYASOSTRELNAYA;#OSOKA;$SVETLAYA;$TRESVETLAYA;$KRYUKOVAYA SVETLAYA;$KLYUCHEVAYA SVETLAYA;",
    "%NEPOSTOYANNAYA;#STRELA KRYUKOVAYA;%POVODNAYA;%GROMNAYAbqrZAPYATAYA;",
    "%GROMOPOVODNAYAbqrZAPYATAYA;%GROMNAYA;%GROMOPOVODNAYA;&blZAPYATAYA;%GROMOKRYZHEVAYA;",
    "&POVODNAYA;%TRYASKA;#KUFISMA;#OBLAKO;#DUDA;#NEMKA;#PAUK"]),
  (0x1d000, ["BYZANTINE MUSICALohrk;$DASEIA;$pr;$OXEIA EKFONITIKON;%DIPLI;$VAREIA EKFONITIKON;",
    "%DIPLI;$KATHISTI;$SYRMATIKI;$PARAKLITIKI;$YPOKRISIS;%DIPLI;$KREMASTI;$APESO EKFONITIKON;",
    "$EXO EKFONITIKON;$TELEIA;$KENTIMATA;$APOSTROFOS;%DIPLI;$SYNEVMA;$THITA;$OLIGONvk;$GORGONvk;",
    "$PSILON;$CHAMILON;$VATHY;$ISONvk;$KENTIMAvk;$KENTIMATAvk;$SAXIMATA;$PARICHON;",
    "$STAVROS APODEXIA;$OXEIAIvk;$VAREIAIvk;$APODERMAvk;$APOTHEMA;$KLASMA;$REVMA;$PIASMAvk;",
    "$TINAGMA;$ANATRICHISMA;$SEISMA;$SYNAGMAvk;%META STAVROU;$OYRANISMAvk;$THEMA;$LEMOI;$DYO;",
    "$TRIA;$TESSERA;$KRATIMATA;$APESO EXO NEO;$FTHORAvk;$IMIFTHORA;$TROMIKONvk;$KATAVA TROMIKON;",
    "$PELASTON;$PSIFISTON;$KONTEVMA;$CHOREVMAvk;$RAPISMA;$PARAKALESMAvk;$PARAKLITIKIvk;$ICHADIN;",
    "$NANA;$PETASMA;$KONTEVMA ALLO;$TROMIKON ALLO;$STRAGGISMATA;$GRONTHISMATA;$ISON NEO;",
    "$OLIGON NEO;$OXEIA NEO;$PETASTI;$KOUFISMA;$PETASTOKOUFISMA;$KRATIMOKOUFISMA;$PELASTON NEO;",
    "$KENTIMATA NEO ANO;$KENTIMA NEO ANO;$YPSILI;$APOSTROFOS NEO;$APOSTROFOI SYNDESMOS NEO;",
    "$YPORROI;$KRATIMOYPORROON;$ELAFRON;$CHAMILI;$MIKRON ISON;$VAREIA NEO;$PIASMA NEO;",
    "$PSIFISTON NEO;$OMALON;$ANTIKENOMA;$LYGISMA;$PARAKLITIKI NEO;$PARAKALESMA NEO;",
    "$ETERON PARAKALESMA;$KYLISMA;$ANTIKENOKYLISMA;$TROMIKON NEO;$EKSTREPTON;$SYNAGMA NEO;",
    "$SYRMA;$CHOREVMA NEO;$EPEGERMA;$SEISMA NEO;$XIRON KLASMA;$TROMIKOPSIFISTON;",
    "$PSIFISTOLYGISMA;$TROMIKOLYGISMA;$TROMIKOPARAKALESMA;$PSIFISTOPARAKALESMA;$TROMIKOSYNAGMA;",
    "$PSIFISTOSYNAGMA;$GORGOSYNTHETON;$ARGOSYNTHETON;$ETERON ARGOSYNTHETON;$OYRANISMA NEO;",
    "$THEMATISMOS ESO;%EXO;$THEMA APLOUN;$THES KAI APOTHES;$KATAVASMA;$ENDOFONON;$YFEN KATO;",
    "%ANO;$STAVROS;$KLASMA ANO;$DIPLIvk;$KRATIMAvk;%ALLO;%NEO;$APODERMA NEO;$APLI;$DIPLI;",
    "$TRIPLI;$TETRAPLI;$KORONIS;$LEIMMA ENOS CHRONOU;%DYO CHRONON;%TRION CHRONON;",
    "%TESSARON CHRONON;%IMISEOS CHRONOU;$GORGON NEO ANO;%PARESTIGMENON ARISTERA;&DEXIA;",
    "$DIGORGON;%PARESTIGMENON ARISTERA KATO;(ANO;&DEXIA;$TRIGORGON;$ARGON;$IMIDIARGON;$DIARGON;",
    "$AGOGI POLI ARGI;%ARGOTERI;%ARGI;%METRIA;%MESI;%GORGI;%GORGOTERI;%POLI GORGI;",
    "$MARTYRIA PROTOS ICHOS;%ALLI PROTOS ICHOS;%DEYTEROS ICHOS;%ALLI DEYTEROS ICHOS;",
    "%TRITOS ICHOS;%TRIFONIAS;%TETARTOS ICHOS;&LEGETOS ICHOS;%LEGETOS ICHOS;%PLAGIOS ICHOS;",
    "$ISAKIA TELOUS ICHIMATOS;$APOSTROFOI TELOUS ICHIMATOS;$FANEROSIS TETRAFONIAS;%MONOFONIAS;",
    "%DIFONIAS;$MARTYRIA VARYS ICHOS;%PROTOVARYS ICHOS;%PLAGIOS TETARTOS ICHOS;",
    "$GORTHMIKON N APLOUN;&DIPLOUN;$ENARXIS KAI FTHORA VOU;$IMIFONON;$IMIFTHORON;",
    "$FTHORAvkDEYTEROU ICHOU;%DIATONIKI PA;&NANA;%NAOS ICHOS;%DIATONIKI DI;%SKLIRON DIATONON DI;",
    "%DIATONIKI KE;&ZO;&NI KATO;(ANO;%MALAKON CHROMA DIFONIAS;(MONOFONIAS;",
    "$FHTORA SKLIRON CHROMA VASIS;$FTHORA SKLIRON CHROMA SYNAFI;%NENANO;$CHROA ZYGOS;%KLITON;",
    "%SPATHI;$FTHORA I YFESIS TETARTIMORION;%ENARMONIOS ANTIFONIA;$YFESIS TRITIMORION;",
    "$DIESIS TRITIMORION;%TETARTIMORION;%APLI DYO DODEKATA;%MONOGRAMMOS TESSERA DODEKATA;",
    "%DIGRAMMOS EX DODEKATA;%TRIGRAMMOS OKTO DODEKATA;$YFESIS APLI DYO DODEKATA;",
    "%MONOGRAMMOS TESSERA DODEKATA;%DIGRAMMOS EX DODEKATA;%TRIGRAMMOS OKTO DODEKATA;",
    "$GENIKI DIESIS;%YFESIS;$DIASTOLI APLI MIKRI;&MEGALI;%DIPLI;%THESEOS;$SIMANSIS THESEOS;",
    "&DISIMOU;&TRISIMOU;&TETRASIMOU;%ARSEOS;&DISIMOU;&TRISIMOU;&TETRASIMOU;$DIGRAMMA GG;",
    "$DIFTOGGOS OU;$STIGMA;$ARKTIKO PA;%VOU;%GA;%DI;%KE;%ZO;%NI;$KENTIMATA NEO MESO;",
    "$KENTIMA NEO MESO;$KENTIMATA NEO KATO;$KENTIMA NEO KATO;$KLASMA KATO;$GORGON NEO KATO"]),
  (0x1d100, ["MUSICALohqrBARLINE;#lBARLINE;#nBARLINE;#wcnBARLINE;#DASHED BARLINE;#tdBARLINE;",
    "#odREPEATg;#hREPEATg;#REPEATqy;#DAL SEGNO;#DA CAPO;#SEGNO;#CODA;#REPEATED FIGURE-1;",
    "$FIGURE-2;$FIGURE-3;#FERMATA;$m;#BREATHoq;#CAESURA;#BRACE;#or;#ONE-LINE STAFF;",
    "#TWO-LINE STAFF;#THREE-LINE STAFF;#FOUR-LINE STAFF;#FIVE-LINE STAFF;#SIX-LINE STAFF;",
    "#SIX-STRING FRETBOARD;#FOUR-STRING FRETBOARD;#G CLEF;%OTTAVA ALTA;&BASSA;#C CLEF;#F CLEF;",
    "%OTTAVA ALTA;&BASSA;#DRUM CLEF-1;$CLEF-2;;;#yiMEASURE REST;#lSHARP;$FLAT;#FLATyt;$qj;",
    "#NATURALyt;$qj;#SHARPyt;$qj;#teskSHARP;%FLAT;#COMMON TIME;#CUT TIME;#OTTAVA ALTA;$BASSA;",
    "#QUINDICESIMA ALTA;$BASSA;#MULTI REST;#WHOLE REST;#qhREST;#teREST;#vqREST;#SIXTEENTH REST;",
    "#THIRTY-SECOND REST;#SIXTY-FOURTH REST;#pkonTWENTY-EIGHTH REST;#Xyu;#qbyu;#pcXyu;#oyyuol;",
    "%ok;#otyuytol;&ok;%odol;&ok;%hol;&ok;%qjol;&ok;%ythol;(ok;#MOONyuol;%ok;",
    "#TRIANGLE-ROUNDyuqjol;&ok;#puyu;#VOIDyu;#yuok;#NULLyu;#CLUSTERyuol;%ok;#sp;#WHOLE NOTE;",
    "#qhNOTE;#teNOTE;#vqNOTE;#SIXTEENTH NOTE;#THIRTY-SECOND NOTE;#SIXTY-FOURTH NOTE;",
    "#pkonTWENTY-EIGHTH NOTE;#raSTEM;$SPRECHGESANG STEM;$TREMOLO-1;$TREMOLO-2;$TREMOLO-3;",
    "#FINGERED TREMOLO-1;$TREMOLO-2;$TREMOLO-3;#raAUGMENTATIONpn;$FLAG-1;$FLAG-2;$FLAG-3;",
    "$FLAG-4;$FLAG-5;#BEGIN BEAM;#END BEAM;#BEGIN TIE;#END TIE;#BEGIN SLUR;#END SLUR;",
    "#BEGIN PHRASE;#END PHRASE;#rati;$STACCATO;$TENUTO;$STACCATISSIMO;$MARCATO;",
    "$MARCATO-STACCATO;$ACCENT-STACCATO;$LOURE;#ARPEGGIATOyt;$qj;#raDOIT;$RIP;$FLIP;$SMEAR;",
    "$BEND;$lTONGUE;$shTONGUE;#RINFORZANDO;#SUBITO;#Z;#PIANO;#MEZZO;#FORTE;#CRESCENDO;",
    "#DECRESCENDO;#GRACE NOTE SLASH;%NO SLASH;#TR;#TURN;#poTURN;#TURN SLASH;$yt;#qkSTROKE-1;",
    "$STROKE-2;$STROKE-3;$STROKE-4;$STROKE-5;$STROKE-6;$STROKE-7;$STROKE-8;$STROKE-9;$STROKE-10;",
    "$STROKE-11;#HAUPTSTIMME;#NEBENSTIMME;#ENDwhSTIMME;#DEGREE SLASH;#raqjBOW;$ytBOW;$HARMONIC;",
    "$SNAP PIZZICATO;#PEDALoq;$ytoq;#qhPEDALoq;#GLISSANDOyt;$qj;#bFINGERNAILS;#DAMP;$ALL;",
    "#MAXIMA;#LONGA;#BREVIS;#SEMIBREVISol;$ok;#MINIMA;$ok;#SEMIMINIMAol;$ok;#FUSAol;$ok;",
    "#LONGA PERFECTA REST;$IMPERFECTA REST;#BREVIS REST;#SEMIBREVIS REST;#MINIMA REST;",
    "#SEMIMINIMA REST;#TEMPUS PERFECTUM CUM PROLATIONE PERFECTA;(IMPERFECTA;",
    "(PERFECTA DIMINUTION-1;$IMPERFECTUM CUM PROLATIONE PERFECTA;(IMPERFECTA;)DIMINUTION-1;",
    ")DIMINUTION-2;)DIMINUTION-3;#CROIX;#GREGORIAN C CLEF;$F CLEF;#oyB;#VIRGA;#PODATUS;#CLIVIS;",
    "#SCANDICUS;#CLIMACUS;#TORCULUS;#PORRECTUS;$FLEXUS;#SCANDICUS FLEXUS;#TORCULUS RESUPINUS;",
    "#PES SUBPUNCTIS;#KIEVAN C CLEF;$ENDwhPIECE;$nNOTE;$RECITATIVEoq;$WHOLE NOTE;$qhNOTE;",
    "$teNOTE STEMqj;(yt;$vqNOTE STEMqj;(yt;$FLATg;#SORI;#KORON"]),
  (0x1d200, ["xvVOCAL NOTATION SYMBOL-1;$SYMBOL-2;$SYMBOL-3;$SYMBOL-4;$SYMBOL-5;$SYMBOL-6;",
    "$SYMBOL-7;$SYMBOL-8;$SYMBOL-9;$SYMBOL-10;$SYMBOL-11;$SYMBOL-12;$SYMBOL-13;$SYMBOL-14;",
    "$SYMBOL-15;$SYMBOL-16;$SYMBOL-17;$SYMBOL-18;$SYMBOL-19;$SYMBOL-20;$SYMBOL-21;$SYMBOL-22;",
    "$SYMBOL-23;$SYMBOL-24;$SYMBOL-50;$SYMBOL-51;$SYMBOL-52;$SYMBOL-53;$SYMBOL-54;",
    "!INSTRUMENTAL NOTATION SYMBOL-1;$SYMBOL-2;$SYMBOL-4;$SYMBOL-5;$SYMBOL-7;$SYMBOL-8;",
    "$SYMBOL-11;$SYMBOL-12;$SYMBOL-13;$SYMBOL-14;$SYMBOL-17;$SYMBOL-18;$SYMBOL-19;$SYMBOL-23;",
    "$SYMBOL-24;$SYMBOL-25;$SYMBOL-26;$SYMBOL-27;$SYMBOL-29;$SYMBOL-30;$SYMBOL-32;$SYMBOL-36;",
    "$SYMBOL-37;$SYMBOL-38;$SYMBOL-39;$SYMBOL-40;$SYMBOL-42;$SYMBOL-43;$SYMBOL-45;$SYMBOL-47;",
    "$SYMBOL-48;$SYMBOL-49;$SYMBOL-50;$SYMBOL-51;$SYMBOL-52;$SYMBOL-53;$SYMBOL-54;",
    "raxvMUSICAL TRISEME;$TETRASEME;$PENTASEME;xvMUSICAL LEIMMA"]),
  (0x1d2e0, ["MAYAN NUMERALrx;#pk;#pj;#of;#pd;#ph;#rt;#pi;#pa;#ql;#vo;#ELEVEN;#TWELVE;#THIRTEEN;",
    "#FOURTEEN;#FIFTEEN;#SIXTEEN;#SEVENTEEN;#EIGHTEEN;#NINETEEN"]),
  (0x1d300, ["MONOGRAM FOR EARTH;DIGRAM FOR HEAVENLY EARTH;#HUMAN EARTH;#EARTHLY HEAVEN;$HUMAN;",
    "#EARTH;TETRAGRAM FORrl;#vepc;#MIRED;#BARRIER;#KEEPINGd;#CONTRARIETY;#ASCENT;#OPPOSITION;",
    "#BRANCHING OUT;#DEFECTIVENESS OR DISTORTION;#DIVERGENCE;#YOUTHFULNESS;#INCREASE;",
    "#PENETRATION;#REACH;#CONTACT;#HOLDING BACK;#WAITING;#FOLLOWING;#ADVANCE;#RELEASE;",
    "#RESISTANCE;#EASE;#JOY;#CONTENTION;#ENDEAVOUR;#DUTIES;#CHANGE;#DECISIVENESS;#zoRESOLUTION;",
    "#PACKING;#LEGION;#CLOSENESS;#KINSHIP;#GATHERING;#STRENGTH;#PURITY;#FULLNESS;#RESIDENCE;",
    "#LAW OR MODEL;#RESPONSE;#GOINGvtMEET;#ENCOUNTERS;#STOVE;#GREATNESS;#ENLARGEMENT;#PATTERN;",
    "#RITUAL;#FLIGHT;#VASTNESS OR WASTING;#CONSTANCY;#MEASURE;#ETERNITY;#UNITY;#DIMINISHMENT;",
    "#tyzn;#GUARDEDNESS;#GATHERING IN;#MASSING;#ACCUMULATION;#EMBELLISHMENT;#DOUBT;#WATCH;",
    "#SINKING;#INNER;#DEPARTURE;#DARKENING;#DIMMING;#EXHAUSTION;#SEVERANCE;#STOPPAGE;#HARDNESS;",
    "#COMPLETION;#CLOSURE;#FAILURE;#AGGRAVATION;#COMPLIANCE;#ON THE VERGE;#DIFFICULTIES;",
    "#LABOURING;#FOSTERING"]),
  (0x1d360, ["COUNTING ROD UNITqepk;%pj;%of;%pd;%ph;%rt;%pi;%pa;%ql;#TENSqepk;%pj;%of;%pd;%ph;",
    "%rt;%pi;%pa;%ql;ujTALLYoqpk;$pj;$of;$pd;$ph;TALLYoqpk;#ph"]),
  (0x1d400, ["wmzocA;$B;$C;$D;$E;$F;$G;$H;$I;$J;$K;$L;$M;$N;$O;$P;$Q;$R;$S;$T;$U;$V;$W;$X;$Y;$Z;",
    "#dA;$B;$C;$D;$E;$F;$G;$H;$I;$J;$K;$L;$M;$N;$O;$P;$Q;$R;$S;$T;$U;$V;$W;$X;$Y;$Z;!ITALICcA;",
    "$B;$C;$D;$E;$F;$G;$H;$I;$J;$K;$L;$M;$N;$O;$P;$Q;$R;$S;$T;$U;$V;$W;$X;$Y;$Z;#dA;$B;$C;$D;$E;",
    "$F;$G;;$I;$J;$K;$L;$M;$N;$O;$P;$Q;$R;$S;$T;$U;$V;$W;$X;$Y;$Z;!zoITALICcA;%B;%C;%D;%E;%F;%G;",
    "%H;%I;%J;%K;%L;%M;%N;%O;%P;%Q;%R;%S;%T;%U;%V;%W;%X;%Y;%Z;$dA;%B;%C;%D;%E;%F;%G;%H;%I;%J;%K;",
    "%L;%M;%N;%O;%P;%Q;%R;%S;%T;%U;%V;%W;%X;%Y;%Z;!wicA;;$C;$D;;;$G;;;$J;$K;;;$N;$O;$P;$Q;;$S;",
    "$T;$U;$V;$W;$X;$Y;$Z;#dA;$B;$C;$D;;$F;;$H;$I;$J;$K;$L;$M;$N;;$P;$Q;$R;$S;$T;$U;$V;$W;$X;$Y;",
    "$Z;!zowicA;%B;%C;%D;%E;%F;%G;%H;%I;%J;%K;%L;%M;%N;%O;%P;%Q;%R;%S;%T;%U;%V;%W;%X;%Y;%Z;$dA;",
    "%B;%C;%D;%E;%F;%G;%H;%I;%J;%K;%L;%M;%N;%O;%P;%Q;%R;%S;%T;%U;%V;%W;%X;%Y;%Z;!FRAKTURcA;$B;;",
    "$D;$E;$F;$G;;;$J;$K;$L;$M;$N;$O;$P;$Q;;$S;$T;$U;$V;$W;$X;$Y;;#dA;$B;$C;$D;$E;$F;$G;$H;$I;",
    "$J;$K;$L;$M;$N;$O;$P;$Q;$R;$S;$T;$U;$V;$W;$X;$Y;$Z;!vgcA;$B;;$D;$E;$F;$G;;$I;$J;$K;$L;$M;;",
    "$O;;;;$S;$T;$U;$V;$W;$X;$Y;;#dA;$B;$C;$D;$E;$F;$G;$H;$I;$J;$K;$L;$M;$N;$O;$P;$Q;$R;$S;$T;",
    "$U;$V;$W;$X;$Y;$Z;!zoFRAKTURcA;%B;%C;%D;%E;%F;%G;%H;%I;%J;%K;%L;%M;%N;%O;%P;%Q;%R;%S;%T;%U;",
    "%V;%W;%X;%Y;%Z;$dA;%B;%C;%D;%E;%F;%G;%H;%I;%J;%K;%L;%M;%N;%O;%P;%Q;%R;%S;%T;%U;%V;%W;%X;%Y;",
    "%Z;!sqcA;$B;$C;$D;$E;$F;$G;$H;$I;$J;$K;$L;$M;$N;$O;$P;$Q;$R;$S;$T;$U;$V;$W;$X;$Y;$Z;#dA;$B;",
    "$C;$D;$E;$F;$G;$H;$I;$J;$K;$L;$M;$N;$O;$P;$Q;$R;$S;$T;$U;$V;$W;$X;$Y;$Z;#zocA;%B;%C;%D;%E;",
    "%F;%G;%H;%I;%J;%K;%L;%M;%N;%O;%P;%Q;%R;%S;%T;%U;%V;%W;%X;%Y;%Z;$dA;%B;%C;%D;%E;%F;%G;%H;%I;",
    "%J;%K;%L;%M;%N;%O;%P;%Q;%R;%S;%T;%U;%V;%W;%X;%Y;%Z;#ITALICcA;%B;%C;%D;%E;%F;%G;%H;%I;%J;%K;",
    "%L;%M;%N;%O;%P;%Q;%R;%S;%T;%U;%V;%W;%X;%Y;%Z;$dA;%B;%C;%D;%E;%F;%G;%H;%I;%J;%K;%L;%M;%N;%O;",
    "%P;%Q;%R;%S;%T;%U;%V;%W;%X;%Y;%Z;#zoITALICcA;&B;&C;&D;&E;&F;&G;&H;&I;&J;&K;&L;&M;&N;&O;&P;",
    "&Q;&R;&S;&T;&U;&V;&W;&X;&Y;&Z;%dA;&B;&C;&D;&E;&F;&G;&H;&I;&J;&K;&L;&M;&N;&O;&P;&Q;&R;&S;&T;",
    "&U;&V;&W;&X;&Y;&Z;!MONOSPACEcA;$B;$C;$D;$E;$F;$G;$H;$I;$J;$K;$L;$M;$N;$O;$P;$Q;$R;$S;$T;$U;",
    "$V;$W;$X;$Y;$Z;#dA;$B;$C;$D;$E;$F;$G;$H;$I;$J;$K;$L;$M;$N;$O;$P;$Q;$R;$S;$T;$U;$V;$W;$X;$Y;",
    "$Z;!ITALICdyzI;%J;;;!zocwa;$BETA;$za;$DELTA;$up;$ZETA;$ETA;$yd;$yx;$KAPPA;$LAMDA;$MU;$NU;",
    "$XI;$xb;$PI;$RHO;$ydoh;$xw;$TAU;$ug;$PHI;$CHI;$PSI;$ux;#NABLA;#dwa;$BETA;$za;$DELTA;$up;",
    "$ZETA;$ETA;$yd;$yx;$KAPPA;$LAMDA;$MU;$NU;$XI;$xb;$PI;$RHO;$nxw;$xw;$TAU;$ug;$PHI;$CHI;$PSI;",
    "$ux;#PARTIAL DIFFERENTIAL;#upoh;#ydoh;#KAPPAoh;#PHIoh;#RHOoh;#PIoh;!ITALICcwa;$BETA;$za;",
    "$DELTA;$up;$ZETA;$ETA;$yd;$yx;$KAPPA;$LAMDA;$MU;$NU;$XI;$xb;$PI;$RHO;$ydoh;$xw;$TAU;$ug;",
    "$PHI;$CHI;$PSI;$ux;#NABLA;#dwa;$BETA;$za;$DELTA;$up;$ZETA;$ETA;$yd;$yx;$KAPPA;$LAMDA;$MU;",
    "$NU;$XI;$xb;$PI;$RHO;$nxw;$xw;$TAU;$ug;$PHI;$CHI;$PSI;$ux;#PARTIAL DIFFERENTIAL;#upoh;",
    "#ydoh;#KAPPAoh;#PHIoh;#RHOoh;#PIoh;!zoITALICcwa;%BETA;%za;%DELTA;%up;%ZETA;%ETA;%yd;%yx;",
    "%KAPPA;%LAMDA;%MU;%NU;%XI;%xb;%PI;%RHO;%ydoh;%xw;%TAU;%ug;%PHI;%CHI;%PSI;%ux;$NABLA;$dwa;",
    "%BETA;%za;%DELTA;%up;%ZETA;%ETA;%yd;%yx;%KAPPA;%LAMDA;%MU;%NU;%XI;%xb;%PI;%RHO;%nxw;%xw;",
    "%TAU;%ug;%PHI;%CHI;%PSI;%ux;$PARTIAL DIFFERENTIAL;$upoh;$ydoh;$KAPPAoh;$PHIoh;$RHOoh;$PIoh;",
    "!sqzocwa;%BETA;%za;%DELTA;%up;%ZETA;%ETA;%yd;%yx;%KAPPA;%LAMDA;%MU;%NU;%XI;%xb;%PI;%RHO;",
    "%ydoh;%xw;%TAU;%ug;%PHI;%CHI;%PSI;%ux;$NABLA;$dwa;%BETA;%za;%DELTA;%up;%ZETA;%ETA;%yd;%yx;",
    "%KAPPA;%LAMDA;%MU;%NU;%XI;%xb;%PI;%RHO;%nxw;%xw;%TAU;%ug;%PHI;%CHI;%PSI;%ux;",
    "$PARTIAL DIFFERENTIAL;$upoh;$ydoh;$KAPPAoh;$PHIoh;$RHOoh;$PIoh;$ITALICcwa;&BETA;&za;&DELTA;",
    "&up;&ZETA;&ETA;&yd;&yx;&KAPPA;&LAMDA;&MU;&NU;&XI;&xb;&PI;&RHO;&ydoh;&xw;&TAU;&ug;&PHI;&CHI;",
    "&PSI;&ux;%NABLA;%dwa;&BETA;&za;&DELTA;&up;&ZETA;&ETA;&yd;&yx;&KAPPA;&LAMDA;&MU;&NU;&XI;&xb;",
    "&PI;&RHO;&nxw;&xw;&TAU;&ug;&PHI;&CHI;&PSI;&ux;%PARTIAL DIFFERENTIAL;%upoh;%ydoh;%KAPPAoh;",
    "%PHIoh;%RHOoh;%PIoh;!zocDIGAMMA;#dDIGAMMA;;;#qerx;$pk;$pj;$of;$pd;$ph;$rt;$pi;$pa;$ql;",
    "!vgqerx;$pk;$pj;$of;$pd;$ph;$rt;$pi;$pa;$ql;!sqqerx;$pk;$pj;$of;$pd;$ph;$rt;$pi;$pa;$ql;",
    "#zoqerx;%pk;%pj;%of;%pd;%ph;%rt;%pi;%pa;%ql;!MONOSPACEqerx;$pk;$pj;$of;$pd;$ph;$rt;$pi;$pa;",
    "$ql;SIGNWRITINGscpx;!tspx;!HAND-CUPpx;!HAND-OVALpx;!uipx;!wvpx;!scpxzi;!tspxzi;",
    "!scrhUNDERpxzi;#pxvwKNUCKLE;$CUPPED;$zs;%uo;!tspxHINGE;!scpxom;!tspxom;!scpxomzi;",
    "%vwKNUCKLES;%zs;$ytomzs;$zsomyt;$omuu;&pxzi;&omzi;&CUPPED;&zs;%zw;!tspxomzw;!scomzirfpx;",
    "#pxzirfom;$omrh;!tspxomrh;!scpxomubrhzi;%zirhub;%rhzi;%zsSPREADrhSIDE;$ytomzsrhSIDE;)uu;",
    "$zsomytrhSIDE;$omytSPREADrhxn;%rhCUPPED;&qx;&HOOKED;&zs;#rhxmpxomub;#pxomuurhSIDE;)uu;)zi;",
    "#omrhHOOKEDpxyt;#pxrhHOOKEDomyt;$omuuzsrhSIDE;%zwrhSIDE;%uurhxn;&CUPPEDrhxn;",
    "#omrhCUPPEDpxyt;#pxrhCUPPEDomyt;#omrhqxpxyt;(zs;#pxrhANGLED OUTomyt;&INomyt;%qxomyt;",
    "$omrhuuzs;&ANGLED OUT;(;#omrhANGLED OUTpxyt;)zw;&pxyt;#pxrhHOOKEDomzs;!HAND-FLATpdva;%zi;",
    "%zs;%uu;&SPLIT;!HAND-CLAWpdvauu;!scpdvauuzi;!uipdvauu;!HAND-FLATphvaSPREAD;#HEELphvaSPREAD;",
    "#phvaSPREADpdzi;#HEELphvaSPREADpdzi;#phvaSPREADzi;#HEELphvaSPREADzi;#phvaSPREADrhxn;",
    "!HAND-CUPphvaSPREAD;&se;!uiphvaSPREADse;!HAND-OVALphvaSPREAD;!HAND-FLATphvaSPREADzs;",
    "(rhSIDE;(NOrh;#;#xmPALM FACINGS;#HEEL;#rhSIDE;#HEELrhSIDE;#rhzi;$xn;#SPLITpxrhSIDE;$rl;",
    "%rhSIDE;(zi;$ro;!HAND-CLAW;#rhSIDE;#NOrh;#rhxn;!HAND-HOOK CURLICUE;#;!HAND-CUPse;#;",
    "#serhSIDE;#rhSIDE;#seNOrh;#NOrh;#serhxn;#rhxn;!HAND-CURLICUEse;#;!ts;!HAND-OVAL;#rhSIDE;",
    "#NOrh;#rhxn;!uise;$rhxn;#;#d;#serhSIDE;#rhSIDE;#seNOrh;#NOrh;#rhSIDE TOUCHINGpx;$xmomrm;",
    "!wv;!scpxomrm;!tspxomrm;!uipxomrm;!wvpxomrm;!uiro;!scpxomrmzi;&uu;!uipxomrmuu;!scroqj;",
    "%RIPPLEub;&CURVED;%OTHERSqx;$yt;#rhUNDERroyt;!tsroyt;!HAND-OVALroyt;!wvroyt;!scrovwKNUCKLE;",
    "$zi;$TOUCHESrh;$rh;!uirorh;!scropxrh;!uiropxrh;!wvropxrhpxrhOUT;);!scropx;!tsropx;!uiropx;",
    "!wvropx;!scpxomro;!tspxomro;!uipxomro;#rm;!wvpxomro;!scpxomttro;!tspxomttro;!scrmqj;",
    "!uirmqjpxrhpeom;!wvrmqjomrhpxtt;!scrmyt;$vwKNUCKLE;$ro;!tsrmro;!HAND-OVALrmro;!wvrmro;",
    "!scrmom;%uu;%vwKNUCKLES;$px;$rh;!HAND-HOOKrmrh;!scpxrmro;!tspxrmro;!HAND-CURLICUEpxrmroON;",
    "!HAND-HOOKpxrmroOUT;&IN;&UNDER;!HAND-CUPpxrmro;!uipxrmro;!wvpxrmroOUT;&;!scomqj;!uiom;",
    "!scomyt;!tsomyt;!scomvwKNUCKLE;$ytrhSIDE;!HAND-HOOKomrh;!scomrhro;$ro;$rmro;!tsomrmro;",
    "!HAND-CURLICUEomrmroON;!HAND-CUPomrmro;!uiomrmro;!wvomrmroOUT;&IN;&;!tsomrmrozi;",
    "!HAND-CLAWomrmrouu;(SIDE;!HAND-HOOKomrmrouuOUT;(IN;(;!uipxzs;!scpxrhSIDE;!uipxrhSIDE;",
    "!scpxrhSIDErhrb;(uu;(zi;&pxzi;&BOTHzi;&pxHINGE;%xnpxub;(zi;%pe;%CURLICUE;%CURVErhye;",
    "!HAND-CLAWpxrhCURVErhye;!scpxrhCURVErhUNDER;%pc;!HAND-CUPpxrh;%se;!uipxrhse;%rn;%;%d;",
    "!wvpxrhOUT;%IN;%;!scrh;$HEEL;$SIDErb;%uu;%zi;$xn;$xmpxom;%omrm;%rmro;$UNDERpjva;$rfpjva;",
    "$UNDERofva;%pdva;$rfpdvwKNUCKLES;#;#HEEL;!TOUCHqr;#yi;#xm;!GRASPqr;#yi;#xm;!STRIKEqr;#yi;",
    "#xm;!BRUSHqr;#yi;#xm;!RUBqr;#yi;#xm;!SURFACE SYMBOLS;#xm;!SQUEEZErnqr;#dqr;#rnyi;#dyi;",
    "#SEQUENTIAL;!FLICKrnqr;#dqr;#rnyi;#dyi;#SEQUENTIAL;!SQUEEZE FLICKtl;!MOVEMENT-HINGEytqjrn;",
    "%d;$SEQUENTIAL;#qjSEQUENTIAL;#ytqjtlrn;&d;#SIDEvtSIDE SCISSORS;!smFINGER CONTACT;",
    "!sdFINGER CONTACT;!smqrubd;%pq;%rn;%LARGEST;$WRIST FLEX;#lub;$WRIST FLEX;$tl;%WRIST FLEX;",
    "#tt;#shubMOVEMENT;$WRIST FLEX;$tl;%WRIST FLEX;#BENDd;$pq;$rn;#und;$pq;$rn;$ROTATION;",
    "#CHECKd;$pq;$rn;#BOXd;$pq;$rn;#ZIGZAGd;$pq;$rn;#PEAKSd;$pq;$rn;!TRAVEL-WALLPLANEyrqr;$l;",
    "$tl;#ycqr;$l;$tl;#SHAKING;#ARM SPIRALqr;%l;%sh;!MOVEMENT-DIAGONAL AWAYd;$pq;$rn;$LARGEST;",
    "#TOWARDSd;$pq;$rn;$LARGEST;#xmAWAYd;%pq;%rn;%LARGEST;$TOWARDSd;%pq;%rn;%LARGEST;!sdqrubd;",
    "%pq;%rn;%LARGEST;$WRIST FLEX;#lub;$WRIST FLEX;$tl;%WRIST FLEX;#tt;#shubMOVEMENT;",
    "$WRIST FLEX;$tlMOVEMENT;%WRIST FLEX;#BEND;#und;$pq;$rn;#CHECK;#BOXd;$pq;$rn;#ZIGZAGd;$pq;",
    "$rn;#PEAKSd;$pq;$rn;!TRAVEL-FLOORPLANEycqr;$l;$tl;#yrqr;$l;$tl;#SHAKING;!smCURVEted;%pq;",
    "%rn;%LARGEST;$HALF-CIRCLEd;%pq;%rn;%LARGEST;$THREE-QUARTERpcd;&pq;#HUMPd;$pq;$rn;#LOOPd;",
    "$pq;$rn;$dl;#WAVE CURVEld;&pq;&rn;%shd;&pq;&rn;#CURVE THENub;#CURVEDttd;%pq;!yrqr;#l;#tj;",
    "!smSHAKING;#CURVEtoFRONT WALL;#HUMPtoFRONT WALL;#LOOPtoFRONT WALL;#WAVEtoFRONT WALL;",
    "!yrqrtoFRONT WALL;#ltoFRONT WALL;#tltoFRONT WALL;!smCURVEtoCHEST;#HUMPtoCHEST;#LOOPtoCHEST;",
    "#WAVEtoCHEST;!yrqrtoCHEST;#ltoCHEST;#tltoCHEST;!smWAVErbPATHd;&pq;&rn;!sdCURVEtoCEILINGd;",
    "&rn;#HUMPtoCEILINGdl;&rnl;&dsh;&rnsh;#LOOPtoCEILINGdqr;&rnqr;&dl;&rnl;#WAVEtoCEILINGd;&rn;",
    "!ycqrtoCEILING;#ltoCEILING;#tltoCEILING;!sdCURVEtoFLOORd;&rn;#HUMPtoFLOORdl;&rnl;&shdsh;",
    "(rnsh;#LOOPtoFLOORdqr;&rnqr;&dl;&rnl;#WAVEtoFLOORd;&rn;!ycqrtoFLOOR;#ltoFLOOR;#tltoFLOOR;",
    "!sdCURVEd;$pq;$rn;$LARGEST;$COMBINED;#HUMPd;#LOOPd;#WAVE SNAKE;$d;$rn;!ycqr;#l;#tl;",
    "!sdSHAKING PARALLEL;!smARMpcdqr;%pqqr;%dl;%pql;!sdARMpctoWALLdqr;(pqqr;(rnqr;(dl;(pql;(rnl;",
    "!smWRISTpcFRONTqr;&l;!sdWRISTpctoWALLqr;(l;!smFINGERzvqr;%l;!sdFINGERzvtoWALLqr;(l;",
    "!DYNAMICozd;$rn;#FAST;#SLOW;#TENSE;#RELAXED;#SIMULTANEOUS;$tl;#EVERY OTHER TIME;#GRADUAL;",
    "!HEAD;#RIM;#smub;$TILT;#sdub;#smCURVE;#sdCURVE;#MOVEMENTpc;",
    "!qpDIRECTION POSITION NOSExnTILTING;&ytORqj;*TILTING;!EYEBROWSubyt;$vr;$qj;",
    "!DREAMY EYEBROWSvrqj;$qjvr;$ytvr;$vryt;!FOREHEADvr;#CONTACT;#WRINKLED;!EYESse;#SQUEEZED;",
    "#ty;!EYE BLINKqr;$yi;!EYESqhse;#WIDEse;#qhty;#WIDENING MOVEMENT;!EYE WINK;!EYELASHESyt;#qj;",
    "#FLUTTERING;!EYEGAZE-WALLPLANEub;$l;$tl;!EYEGAZE-FLOORPLANEub;$l;$tl;",
    "!EYEGAZE-WALLPLANE CURVED;!EYEGAZE-FLOORPLANE CURVED;!EYEGAZE-WALLPLANE CIRCLING;",
    "!CHEEKS PUFFED;#vr;#SUCKED;!TENSE CHEEKSst;$om;$uo;!EARS;!NOSEvr;#CONTACT;#WRINKLES;",
    "#WIGGLES;!AIR BLOWING OUT;#SUCKING IN;#BLOWdROTATIONS;#SUCKdROTATIONS;!BREATH INHALE;",
    "#EXHALE;!zntyvr;$xn;$CONTACT;#SMILE;$WRINKLED;$se;#FROWN;$WRINKLED;$se;#sepc;$xn;$WRINKLED;",
    "$OVAL;%WRINKLED;%YAWN;$RECTANGLE;%WRINKLED;%YAWN;#KISS;$xn;$WRINKLED;#TENSE;$xn;$SUCKED;",
    "!LIPS PRESSED TOGETHER;!LIPqfrfqw;#qwrfqf;!znCORNERS;#WRINKLESqr;$l;",
    "!TONGUE STICKING OUT FAR;#LICKING LIPS;#TIPxmLIPS;$TOUCHINGyezn;#yeznRELAXED;",
    "#MOVES AGAINST CHEEK;#rlSTICKING OUT;$yezn;!TEETH;#MOVEMENT;#ON TONGUE;%MOVEMENT;$LIPS;",
    "%MOVEMENT;#BITE LIPS;!smJAW;!sdJAW;!NECK;!HAIR;!EXCITEMENT;!SHOULDER HIP SPINE;$POSITIONS;",
    "!WALLPLANE SHOULDER HIP MOVE;!FLOORPLANE SHOULDER HIP MOVE;!SHOULDER TILTINGyvWAIST;",
    "!TORSO-WALLPLANEubSTRETCH;#CURVED BEND;!TORSO-FLOORPLANE TWISTING;",
    "!qwBODY TILTINGyvHIP JOINTS;!LIMB COMBINATION;#LENGTH-1;#LENGTH-2;#LENGTH-3;#LENGTH-4;",
    "#LENGTH-5;#LENGTH-6;#LENGTH-7;!FINGER;!LOCATION-WALLPLANEzc;!LOCATION-FLOORPLANEzc;",
    "!LOCATION HEIGHT;#WIDTH;#DEPTH;#HEAD NECK;#TORSO;#LIMBS DIGITS;!sb;!veta;!xy;!wg;!pu"]),
  (0x1da9b, ["SIGNWRITING FILL MODIFIER-2;#MODIFIER-3;#MODIFIER-4;#MODIFIER-5;#MODIFIER-6;;",
    "!ROTATION MODIFIER-2;#MODIFIER-3;#MODIFIER-4;#MODIFIER-5;#MODIFIER-6;#MODIFIER-7;",
    "#MODIFIER-8;#MODIFIER-9;#MODIFIER-10;#MODIFIER-11;#MODIFIER-12;#MODIFIER-13;#MODIFIER-14;",
    "#MODIFIER-15;#MODIFIER-16"]),
  (0x1df00, ["szdaFENGuebTRILL;$pgwiG;!adcpzG;!dapgK;!adcLbBELT;!daLEZHbqqpe;$pzYbBELT;$pgENG;",
    "$pzRbsjLEGojqqpe;$Tbpeojqqpe;!aqqCLICKbqqpe;!daESHblry;)ojCURL;$pzTbCURL;!apouftabCURL;",
    "#STRETCHED CbCURL;#dcpzK;!daLbFISHHOOK;$DEZHuebtvpe;$LbBELTojtvpe;$ENGbtvpe;$pzRbtvpe;",
    "$RbFISHHOOKojtvpe;$TESHuebtvpe;$EZHbtvpe;$DEZHuebqqpe;$Ibogojqqpe;$Obqqpe;$TESHuebqqpe;",
    "$Cbqqpe;$SbCURL"]),
  (0x1e000, ["raGLAGOLITICaAZU;$BUKY;$VEDE;$GLAGOLI;$DOBRO;$YESTU;$ZHIVETE;;$ZEMLJA;$IZHE;",
    "$ocIZHE;$I;$DJERVI;$KAKO;$LJUDIJE;$MYSLITE;$NASHI;$ONU;$POKOJI;$RITSI;$SLOVO;$TVRIDO;$UKU;",
    "$FRITU;$HERU;;;$SHTA;$TSI;$CHRIVI;$wf;$YERU;$YERI;$YATI;;$YU;$dYUS;;$YO;$IOTATEDdYUS;",
    "$BIG YUS;$IOTATED BIG YUS;$FITA"]),
  (0x1e100, ["NYIAKENG PUACHUE HMONGaMA;%TSA;%NTA;%TA;%HA;%NA;%XA;%NKA;%CA;%LA;%SA;%ZA;%NCA;",
    "%NTSA;%KA;%DA;%xa;%NRA;%VA;%NTXA;%TXA;%FA;%RA;%QA;%YA;%NQA;%PA;%XYA;%NPA;%DLA;%NPLA;%ut;",
    "%MLA;%PLA;%GA;%RRA;%A;%AA;%I;%U;%O;%OO;%E;%EE;%W;;;;$TONE-B;$TONE-M;$TONE-J;$TONE-V;",
    "$TONE-S;$TONE-G;$TONE-D;$gFORzt;&THING;&LOCATION;&ANIMAL;&INVERTEBRATE;%XW XW;",
    "$vyLENGTHENER;;;$qerx;%pk;%pj;%of;%pd;%ph;%rt;%pi;%pa;%ql"]),
  (0x1e14e, ["NYIAKENG PUACHUE HMONG LOGOGRAM NYAJ;$qxCA"]),
  (0x1e290, ["TOTOaPA;#BA;#TA;#DA;#KA;#GA;#MA;#NA;#wd;#SA;#wx;#YA;#WA;#JA;#HA;#RA;#LA;#I;",
    "#BREATHY I;#IU;#BREATHY IU;#U;#E;#BREATHY E;#EO;#BREATHY EO;#O;#AE;#BREATHY AE;#A;",
    "!gRISINGsk"]),
  (0x1e2c0, ["WANCHOaAA;#A;#BA;#CA;#DA;#GA;#YA;#yp;#LA;#NA;#PA;#TA;#xr;#FA;#SA;#wf;#JA;#ZA;#WA;",
    "#VA;#KA;#O;#AU;#RA;#MA;#xe;#HA;#E;#I;#wd;#U;#LLHA;#TSA;#TRA;#ONG;#AANG;#ANG;#ING;#ON;#EN;",
    "#AAN;#xa;#UEN;#YIH;!skTUP;#TUPNI;#KOI;#KOINI;!qerx;#pk;#pj;#of;#pd;#ph;#rt;#pi;#pa;#ql"]),
  (0x1e2ff, ["WANCHO NGUNg"]),
  (0x1e7e0, ["ETHIOPICvyHHYA;#HHYU;#HHYI;#HHYAA;#HHYEE;#HHYE;#HHYO;;#GURAGE HHWA;#HHWI;#HHWEE;",
    "#HHWE;;#GURAGE MWI;$MWEE;;$QWI;$QWEE;$QWE;$BWI;$BWEE;$KWI;$KWEE;$KWE;$GWI;$GWEE;$GWE;$FWI;",
    "$FWEE;$PWI;$PWEE;;MENDE KIKAKUIvyM001 KI;$M002 KA;$M003 KU;$M065 KEE;$M095 KE;$M076 KOO;",
    "$M048 KO;$M179 KUA;$M004 WI;$M005 WA;$M006 WU;$M126 WEE;$M118 WE;$M114 WOO;$M045 WO;",
    "$M194 WUI;$M143 WEI;$M061 WVI;$M049 WVA;$M139 WVE;$M007 MIN;$M008 MAN;$M009 MUN;$M059 MEN;",
    "$M094 MON;$M154 MUAN;$M189 MUEN;$M010 BI;$M011 BA;$M012 BU;$M150 BEE;$M097 BE;$M103 BOO;",
    "$M138 BO;$M013 I;$M014 A;$M015 U;$M163 EE;$M100 E;$M165 OO;$M147 O;$M137 EI;$M131 IN;",
    "$M135 IN;$M195 AN;$M178 EN;$M019 SI;$M020 SA;$M021 SU;$M162 SEE;$M116 SE;$M136 SOO;",
    "$M079 SO;$M196 SIA;$M025 LI;$M026 LA;$M027 LU;$M084 LEE;$M073 LE;$M054 LOO;$M153 LO;",
    "$M110sjLE;$M016 DI;$M017 DA;$M018 DU;$M089 DEE;$M180 DOO;$M181 DO;$M022 TI;$M023 TA;",
    "$M024 TU;$M091 TEE;$M055 TE;$M104 TOO;$M069vt;$M028 JI;$M029 JA;$M030 JU;$M157 JEE;",
    "$M113 JE;$M160 JOO;$M063 JO;$M175sjJO;$M031 YI;$M032 YA;$M033 YU;$M109 YEE;$M080 YE;",
    "$M141 YOO;$M121 YO;$M034 FI;$M035 FA;$M036 FU;$M078 FEE;$M075 FE;$M133 FOO;$M088 FO;",
    "$M197 FUA;$M101 FAN;$M037 NIN;$M038 NAN;$M039 NUN;$M117 NEN;$M169 NON;$M176 HI;$M041 HA;",
    "$M186 HU;$M040 HEE;$M096 HE;$M042 HOO;$M140 HO;$M083 HEEI;$M128 HOOU;$M053 HIN;$M130 HAN;",
    "$M087 HUN;$M052 HEN;$M193 HON;$M046 HUAN;$M090 NGGI;$M043 NGGA;$M082 NGGU;$M115 NGGEE;",
    "$M146 NGGE;$M156 NGGOO;$M120 NGGO;$M159 NGGAA;$M127 NGGUA;$M086sjNGGE;$M106sjNGGOO;",
    "$M183sjNGGO;$M155 GI;$M111 GA;$M168 GU;$M190 GEE;$M166 GUEI;$M167 GUAN;$M184 NGEN;",
    "$M057 NGON;$M177 NGUAN;$M068 PI;$M099 PA;$M050 PU;$M081 PEE;$M051 PE;$M102 POO;$M066 PO;",
    "$M145 MBI;$M062 MBA;$M122 MBU;$M047 MBEE;$M188 MBEE;$M072 MBE;$M172 MBOO;$M174 MBO;",
    "$M187 MBUU;$M161sjMBE;$M105sjMBOO;$M142sjMBO;$M132 KPI;$M092 KPA;$M074 KPU;$M044 KPEE;",
    "$M108 KPE;$M112 KPOO;$M158 KPO;$M124 GBI;$M056 GBA;$M148 GBU;$M093 GBEE;$M107 GBE;",
    "$M071 GBOO;$M070 GBO;$M171 RA;$M123 NDI;$M129 NDA;$M125 NDU;$M191 NDEE;$M119 NDE;",
    "$M067 NDOO;$M064 NDO;$M152 NJA;$M192 NJU;$M149 NJEE;$M134 NJOO;$M182 VI;$M185 VA;$M151 VU;",
    "$M173 VEE;$M085 VE;$M144 VOO;$M077 VO;$M164 NYIN;$M058 NYAN;$M170 NYUN;$M098 NYEN;",
    "$M060 NYON;;;#qepk;$pj;$of;$pd;$ph;$rt;$pi;$pa;$ql;#rareTEENS;%TENS;%HUNDREDS;%THOUSANDS;",
    "%voTHOUSANDS;%onTHOUSANDS;%MILLIONS"]),
  (0x1e900, ["ADLAMcaALIF;$DAALI;$LAAM;$MIIM;$BA;$SINNYIIYHE;$PE;$BHE;$RA;$E;$FA;$I;$O;$zr;$YHE;",
    "$WAW;$NUN;$KAF;$YA;$U;$JIIM;$CHI;$HA;$QAAF;$GA;$xa;$TU;$NHA;$VA;$xe;$GBE;$ZAL;$KPO;$wf;",
    "!daALIF;$DAALI;$LAAM;$MIIM;$BA;$SINNYIIYHE;$PE;$BHE;$RA;$E;$FA;$I;$O;$zr;$YHE;$WAW;$NUN;",
    "$KAF;$YA;$U;$JIIM;$CHI;$HA;$QAAF;$GA;$xa;$TU;$NHA;$VA;$xe;$GBE;$ZAL;$KPO;$wf;",
    "!ALIF LENGTHENER;!pvLENGTHENER;!GEMINATIONoq;!vi;!tksr;!GEMINATEtksr;!yb;!NASALIZATIONoq"]),
  (0x1e950, ["ADLAMqerx;#pk;#pj;#of;#pd;#ph;#rt;#pi;#pa;#ql"]),
  (0x1e95e, ["ADLAMocrpoq;#svoq"]),
  (0x1ec71, ["INDIC SIYAQrepk;$pj;$of;$pd;$ph;$rt;$pi;$pa;$ql;$vo;$tb;$xc;$FORTY;$wb;$SIXTY;$sw;",
    "$EIGHTY;$tn;$pkon;$pjon;$ofon;$pdon;$phon;$rton;$pion;$paon;$qlon;$pkop;$pjop;$ofop;$pdop;",
    "$phop;$rtop;$piop;$paop;$qlop;$voop;$tbop;$xcop;$FORTYop;$wbop;$SIXTYop;$swop;$EIGHTYop;",
    "$tnop;$LAKH;$LAKHAN;#LAKHoq;#reKAROR;$KARORAN;$PREFIXEDpk;%pj;%of;%pd;%ph;%rt;%pi;%pa;%ql;",
    "#PLACEHOLDER;#vlpkte;%qh;$ofxi;#RUPEEoq;#retjpk;%pj;%voop;#tjLAKHoq"]),
  (0x1ed01, ["OTTOMAN SIYAQrepk;$pj;$of;$pd;$ph;$rt;$pi;$pa;$ql;$vo;$tb;$xc;$FORTY;$wb;$SIXTY;",
    "$sw;$EIGHTY;$tn;$pkon;$pjon;$ofon;$pdon;$phon;$rton;$pion;$paon;$qlon;$pkop;$pjop;$ofop;",
    "$pdop;$phop;$rtop;$piop;$paop;$qlop;$voop;$tbop;$xcop;$FORTYop;$wbop;$SIXTYop;$swop;",
    "$EIGHTYop;$tnop;#MARRATAN;#tjrepj;%of;%pd;%ph;%rt;%pi;%pa;%ql;%vo;%pdon;%rton;%pjop;%voop;",
    "#vlpkqh;%SIXTH"]),
  (0x1ee00, ["vpwmrj;#BEH;#sf;#DAL;;#WAW;#ZAIN;#ut;#TAH;#th;#KAF;#LAM;#qa;#xg;#SEEN;#AIN;#FEH;",
    "#SAD;#QAF;#REH;#SHEEN;#TEH;#THEH;#uv;#THAL;#DAD;#ZAH;#GHAIN;#yzBEH;$xg;$FEH;$QAF;;#ocBEH;",
    "$sf;;$HEH;;;$ut;;$th;$KAF;$LAM;$qa;$xg;$SEEN;$AIN;$FEH;$SAD;$QAF;;$SHEEN;$TEH;$THEH;$uv;;",
    "$DAD;;$GHAIN"]),
  (0x1ee42, ["vpwmTAILEDsf"]),
  (0x1ee47, ["vpwmTAILEDut;;$th;;$LAM;;$xg;$SEEN;$AIN;;$SAD;$QAF;;$SHEEN;;;$uv;;$DAD;;$GHAIN;;",
    "$yzxg;;%QAF;;#STRETCHED BEH;$sf;;$HEH;;;$ut;$TAH;$th;$KAF;;$qa;$xg;$SEEN;$AIN;$FEH;$SAD;",
    "$QAF;;$SHEEN;$TEH;$THEH;$uv;;$DAD;$ZAH;$GHAIN;$yzBEH;;%FEH;;#LOOPEDrj;$BEH;$sf;$DAL;$HEH;",
    "$WAW;$ZAIN;$ut;$TAH;$th;;$LAM;$qa;$xg;$SEEN;$AIN;$FEH;$SAD;$QAF;$REH;$SHEEN;$TEH;$THEH;$uv;",
    "$THAL;$DAD;$ZAH;$GHAIN"]),
  (0x1eea1, ["vpwmvgBEH;$sf;$DAL;;$WAW;$ZAIN;$ut;$TAH;$th;;$LAM;$qa;$xg;$SEEN;$AIN;$FEH;$SAD;",
    "$QAF;$REH;$SHEEN;$TEH;$THEH;$uv;$THAL;$DAD;$ZAH;$GHAIN"]),
  (0x1eef0, ["vpwmrgqabutbTATWEEL;$utbDAL"]),
  (0x1f000, ["MAHJONG TILEtzWIND;#ukWIND;#uwWIND;#tpWIND;#RED DRAGON;#GREEN DRAGON;#olDRAGON;",
    "#pkwhzf;#pjwhzf;#ofwhzf;#pdwhzf;#phwhzf;#rtwhzf;#piwhzf;#pawhzf;#qlwhzf;#pkwhBAMBOOS;",
    "#pjwhBAMBOOS;#ofwhBAMBOOS;#pdwhBAMBOOS;#phwhBAMBOOS;#rtwhBAMBOOS;#piwhBAMBOOS;#pawhBAMBOOS;",
    "#qlwhBAMBOOS;#pkwhzv;#pjwhzv;#ofwhzv;#pdwhzv;#phwhzv;#rtwhzv;#piwhzv;#pawhzv;#qlwhzv;#PLUM;",
    "#ORCHID;#BAMBOO;#CHRYSANTHEMUM;#SPRING;#SUMMER;#AUTUMN;#WINTER;#JOKER;#BACK"]),
  (0x1f030, ["DOMINO TILEoiBACK;#HORIZONTAL-00-00;#HORIZONTAL-00-01;#HORIZONTAL-00-02;",
    "#HORIZONTAL-00-03;#HORIZONTAL-00-04;#HORIZONTAL-00-05;#HORIZONTAL-00-06;#HORIZONTAL-01-00;",
    "#HORIZONTAL-01-01;#HORIZONTAL-01-02;#HORIZONTAL-01-03;#HORIZONTAL-01-04;#HORIZONTAL-01-05;",
    "#HORIZONTAL-01-06;#HORIZONTAL-02-00;#HORIZONTAL-02-01;#HORIZONTAL-02-02;#HORIZONTAL-02-03;",
    "#HORIZONTAL-02-04;#HORIZONTAL-02-05;#HORIZONTAL-02-06;#HORIZONTAL-03-00;#HORIZONTAL-03-01;",
    "#HORIZONTAL-03-02;#HORIZONTAL-03-03;#HORIZONTAL-03-04;#HORIZONTAL-03-05;#HORIZONTAL-03-06;",
    "#HORIZONTAL-04-00;#HORIZONTAL-04-01;#HORIZONTAL-04-02;#HORIZONTAL-04-03;#HORIZONTAL-04-04;",
    "#HORIZONTAL-04-05;#HORIZONTAL-04-06;#HORIZONTAL-05-00;#HORIZONTAL-05-01;#HORIZONTAL-05-02;",
    "#HORIZONTAL-05-03;#HORIZONTAL-05-04;#HORIZONTAL-05-05;#HORIZONTAL-05-06;#HORIZONTAL-06-00;",
    "#HORIZONTAL-06-01;#HORIZONTAL-06-02;#HORIZONTAL-06-03;#HORIZONTAL-06-04;#HORIZONTAL-06-05;",
    "#HORIZONTAL-06-06;#obBACK;#VERTICAL-00-00;#VERTICAL-00-01;#VERTICAL-00-02;#VERTICAL-00-03;",
    "#VERTICAL-00-04;#VERTICAL-00-05;#VERTICAL-00-06;#VERTICAL-01-00;#VERTICAL-01-01;",
    "#VERTICAL-01-02;#VERTICAL-01-03;#VERTICAL-01-04;#VERTICAL-01-05;#VERTICAL-01-06;",
    "#VERTICAL-02-00;#VERTICAL-02-01;#VERTICAL-02-02;#VERTICAL-02-03;#VERTICAL-02-04;",
    "#VERTICAL-02-05;#VERTICAL-02-06;#VERTICAL-03-00;#VERTICAL-03-01;#VERTICAL-03-02;",
    "#VERTICAL-03-03;#VERTICAL-03-04;#VERTICAL-03-05;#VERTICAL-03-06;#VERTICAL-04-00;",
    "#VERTICAL-04-01;#VERTICAL-04-02;#VERTICAL-04-03;#VERTICAL-04-04;#VERTICAL-04-05;",
    "#VERTICAL-04-06;#VERTICAL-05-00;#VERTICAL-05-01;#VERTICAL-05-02;#VERTICAL-05-03;",
    "#VERTICAL-05-04;#VERTICAL-05-05;#VERTICAL-05-06;#VERTICAL-06-00;#VERTICAL-06-01;",
    "#VERTICAL-06-02;#VERTICAL-06-03;#VERTICAL-06-04;#VERTICAL-06-05;#VERTICAL-06-06"]),
  (0x1f0a0, ["PLAYING CARD BACK;#ACEwhSPADES;#pjwhSPADES;#ofwhSPADES;#pdwhSPADES;#phwhSPADES;",
    "#rtwhSPADES;#piwhSPADES;#pawhSPADES;#qlwhSPADES;#vowhSPADES;#JACKwhSPADES;#vjwhSPADES;",
    "#QUEENwhSPADES;#KINGwhSPADES;;;#ACEwhzg;#pjwhzg;#ofwhzg;#pdwhzg;#phwhzg;#rtwhzg;#piwhzg;",
    "#pawhzg;#qlwhzg;#vowhzg;#JACKwhzg;#vjwhzg;#QUEENwhzg;#KINGwhzg;#RED JOKER;;#ACEwhxu;",
    "#pjwhxu;#ofwhxu;#pdwhxu;#phwhxu;#rtwhxu;#piwhxu;#pawhxu;#qlwhxu;#vowhxu;#JACKwhxu;#vjwhxu;",
    "#QUEENwhxu;#KINGwhxu;#okJOKER;;#ACEwhCLUBS;#pjwhCLUBS;#ofwhCLUBS;#pdwhCLUBS;#phwhCLUBS;",
    "#rtwhCLUBS;#piwhCLUBS;#pawhCLUBS;#qlwhCLUBS;#vowhCLUBS;#JACKwhCLUBS;#vjwhCLUBS;",
    "#QUEENwhCLUBS;#KINGwhCLUBS;#olJOKER;#FOOL;#TRUMP-1;#TRUMP-2;#TRUMP-3;#TRUMP-4;#TRUMP-5;",
    "#TRUMP-6;#TRUMP-7;#TRUMP-8;#TRUMP-9;#TRUMP-10;#TRUMP-11;#TRUMP-12;#TRUMP-13;#TRUMP-14;",
    "#TRUMP-15;#TRUMP-16;#TRUMP-17;#TRUMP-18;#TRUMP-19;#TRUMP-20;#TRUMP-21"]),
  (0x1f100, ["qerxveta;#sb;!pksb;!pjsb;!ofsb;!pdsb;!phsb;!rtsb;!pisb;!pasb;!qlsb;",
    "DINGBATqxsqqerx;!xfqxsqqerx;qxrxbSLASH;!sgf;!DOLLARgbOVERLAID BACKSLASH;PARENTHESIZEDszcaA;",
    "%B;%C;%D;%E;%F;%G;%H;%I;%J;%K;%L;%M;%N;%O;%P;%Q;%R;%S;%T;%U;%V;%W;%X;%Y;%Z;",
    "vzymBRACKETEDszcaS;qxITALICszcaC;&R;!CD;!WZ;COPYLEFToh;snszcaA;%B;%C;%D;%E;%F;%G;%H;%I;%J;",
    "%K;%L;%M;%N;%O;%P;%Q;%R;%S;%T;%U;%V;%W;%X;%Y;%Z;!HV;!MV;!SD;!SS;!PPV;!WC;xfqxszcaA;&B;&C;",
    "&D;&E;&F;&G;&H;&I;&J;&K;&L;&M;&N;&O;&P;&Q;&R;&S;&T;&U;&V;&W;&X;&Y;&Z;vwMCg;!MDg;!MRg;qxCC;",
    "!CbOVERLAID BACKSLASH;!HUMAN FIGURE;xfsnszcaA;&B;&C;&D;&E;&F;&G;&H;&I;&J;&K;&L;&M;&N;&O;&P;",
    "&Q;&R;&S;&T;&U;&V;&W;&X;&Y;&Z;zwxfsnszcaP;xfsnIC;#PA;#SA;#AB;#WC;oyDJ;snCL;!COOL;!FREE;!ID;",
    "!NEW;!NG;!OK;!SOS;!ytbrpoq;!VS;!ofD;!SECOND SCREEN;!pjK;!pdK;!paK;!phPOINTpk;!piPOINTpk;",
    "!TWENTY-TWO POINTpj;!SIXTY P;!pkontbP;!szdaD;!HC;!HDR;!HI-RES;!LOSSLESS;!SHV;!UHD;!VOD;",
    "MASK WORKoh"]),
  (0x1f1e6, ["REGIONAL INDICATORohaA;%B;%C;%D;%E;%F;%G;%H;%I;%J;%K;%L;%M;%N;%O;%P;%Q;%R;%S;%T;",
    "%U;%V;%W;%X;%Y;%Z;oyHIRAGANA HOKA;snzxKOKO;#SA"]),
  (0x1f210, ["snCJK UNIFIED IDEOGRAPH-624B;$IDEOGRAPH-5B57;$IDEOGRAPH-53CC;!zxDE;",
    "!CJK UNIFIED IDEOGRAPH-4E8C;$IDEOGRAPH-591A;$IDEOGRAPH-89E3;$IDEOGRAPH-5929;",
    "$IDEOGRAPH-4EA4;$IDEOGRAPH-6620;$IDEOGRAPH-7121;$IDEOGRAPH-6599;$IDEOGRAPH-524D;",
    "$IDEOGRAPH-5F8C;$IDEOGRAPH-518D;$IDEOGRAPH-65B0;$IDEOGRAPH-521D;$IDEOGRAPH-7D42;",
    "$IDEOGRAPH-751F;$IDEOGRAPH-8CA9;$IDEOGRAPH-58F0;$IDEOGRAPH-5439;$IDEOGRAPH-6F14;",
    "$IDEOGRAPH-6295;$IDEOGRAPH-6355;$IDEOGRAPH-4E00;$IDEOGRAPH-4E09;$IDEOGRAPH-904A;",
    "$IDEOGRAPH-5DE6;$IDEOGRAPH-4E2D;$IDEOGRAPH-53F3;$IDEOGRAPH-6307;$IDEOGRAPH-8D70;",
    "$IDEOGRAPH-6253;$IDEOGRAPH-7981;$IDEOGRAPH-7A7A;$IDEOGRAPH-5408;$IDEOGRAPH-6E80;",
    "$IDEOGRAPH-6709;$IDEOGRAPH-6708;$IDEOGRAPH-7533;$IDEOGRAPH-5272;$IDEOGRAPH-55B6;",
    "$IDEOGRAPH-914D"]),
  (0x1f240, ["vzymBRACKETED CJK UNIFIED IDEOGRAPH-672C;&IDEOGRAPH-4E09;&IDEOGRAPH-4E8C;",
    "&IDEOGRAPH-5B89;&IDEOGRAPH-70B9;&IDEOGRAPH-6253;&IDEOGRAPH-76D7;&IDEOGRAPH-52DD;",
    "&IDEOGRAPH-6557"]),
  (0x1f250, ["qxIDEOGRAPH ADVANTAGE;#ACCEPT"]),
  (0x1f260, ["ROUNDEDohFOR FU;$LU;$SHOU;$XI;$SHUANGXI;$CAI"]),
  (0x1f300, ["CYCLONE;FOGGY;tyUMBRELLA;NIGHTbSTARS;SUNRISErfMOUNTAINS;!;CITYSCAPE AT DUSK;",
    "SUNSETrfBUILDINGS;RAINBOW;BRIDGE AT NIGHT;WATER WAVE;VOLCANO;MILKY WAY;",
    "EARTH GLOBE EUROPE-AFRICA;#AMERICAS;#ASIA-AUSTRALIA;GLOBEbMERIDIANS;NEW MOONoh;",
    "WAXING CRESCENT MOONoh;FIRSTteMOONoh;WAXING GIBBOUS MOONoh;veMOONoh;WANING GIBBOUS MOONoh;",
    "LASTteMOONoh;WANING CRESCENT MOONoh;CRESCENT MOON;NEW MOONbqp;FIRSTteMOONbqp;LASTteMOONbqp;",
    "veMOONbqp;SUNbqp;GLOWINGul;SHOOTINGul;THERMOMETER;okDROPLET;olSUN;#bdCLOUD;#BEHIND CLOUD;",
    "%bRAIN;CLOUDbRAIN;#SNOW;#LIGHTNING;#TORNADO;FOG;WIND BLOWINGqp;HOT DOG;TACO;BURRITO;",
    "CHESTNUT;SEEDLING;EVERGREEN TREE;DECIDUOUS TREE;PALM TREE;CACTUS;HOT PEPPER;TULIP;",
    "CHERRY BLOSSOM;ROSE;HIBISCUS;SUNFLOWER;BLOSSOM;EARwhMAIZE;#RICE;HERB;pdLEAF CLOVER;",
    "MAPLE LEAF;FALLEN LEAF;LEAF FLUTTERING IN WIND;MUSHROOM;TOMATO;AUBERGINE;GRAPES;MELON;",
    "WATERMELON;TANGERINE;LEMON;BANANA;PINEAPPLE;RED APPLE;GREEN APPLE;PEAR;PEACH;CHERRIES;",
    "STRAWBERRY;HAMBURGER;SLICEwhPIZZA;MEAT ON BONE;POULTRY LEG;RICE CRACKER;!BALL;COOKED RICE;",
    "CURRYojRICE;STEAMING BOWL;SPAGHETTI;BREAD;FRENCH FRIES;ROASTED SWEET POTATO;DANGO;ODEN;",
    "SUSHI;FRIED SHRIMP;FISH CAKEbSWIRL DESIGN;SOFT ICE CREAM;SHAVED ICE;ICE CREAM;DOUGHNUT;",
    "COOKIE;CHOCOLATEry;CANDY;LOLLIPOP;CUSTARD;HONEY POT;SHORTCAKE;BENTO BOX;POTwhFOOD;COOKING;",
    "FORKojKNIFE;TEACUP WITHOUT HANDLE;SAKE BOTTLEojCUP;WINE GLASS;COCKTAIL GLASS;",
    "TROPICAL DRINK;BEER MUG;CLINKING BEER MUGS;BABY BOTTLE;FORKojKNIFEbPLATE;",
    "BOTTLEbPOPPING CORK;POPCORN;RIBBON;WRAPPED PRESENT;BIRTHDAY CAKE;JACK-O-LANTERN;",
    "CHRISTMAS TREE;FATHER CHRISTMAS;FIREWORKS;FIREWORK SPARKLER;BALLOON;PARTY POPPER;",
    "CONFETTI BALL;TANABATA TREE;zwFLAGS;PINE DECORATION;JAPANESE DOLLS;CARP STREAMER;",
    "WIND CHIME;MOON VIEWING CEREMONY;SCHOOL SATCHEL;GRADUATION CAP;wwbTIP ON THEod;",
    "BOUQUETwhFLOWERS;MILITARY MEDAL;REMINDER RIBBON;MUSICAL KEYBOARDbJACKS;STUDIO MICROPHONE;",
    "LEVEL SLIDER;CONTROL KNOBS;BEAMED ASCENDING MUSICAL NOTES;!DESCENDING MUSICAL NOTES;",
    "FILM FRAMES;ADMISSION TICKETS;CAROUSEL HORSE;FERRIS WHEEL;ROLLER COASTER;",
    "FISHING POLEojFISH;MICROPHONE;MOVIE CAMERA;CINEMA;HEADPHONE;ARTIST PALETTE;TOP HAT;",
    "CIRCUS TENT;TICKET;CLAPPER BOARD;PERFORMING ARTS;VIDEO GAME;DIRECT HIT;SLOT MACHINE;",
    "BILLIARDS;GAME DIE;BOWLING;FLOWER PLAYING CARDS;MUSICAL NOTE;yiMUSICAL NOTES;SAXOPHONE;",
    "GUITAR;MUSICAL KEYBOARD;TRUMPET;VIOLIN;MUSICAL SCORE;RUNNING SHIRTbSASH;",
    "TENNIS RACQUETojBALL;SKIojSKI BOOT;BASKETBALLojHOOP;CHEQUERED FLAG;SNOWBOARDER;RUNNER;",
    "SURFER;SPORTS MEDAL;TROPHY;HORSE RACING;AMERICAN FOOTBALL;RUGBY FOOTBALL;SWIMMER;",
    "WEIGHT LIFTER;GOLFER;RACING MOTORCYCLE;!CAR;CRICKET BATojBALL;VOLLEYBALL;",
    "FIELD HOCKEY STICKojBALL;ICE HOCKEY STICKojPUCK;TABLE TENNIS PADDLEojBALL;",
    "SNOW CAPPED MOUNTAIN;CAMPING;BEACHbUMBRELLA;BUILDING CONSTRUCTION;HOUSE BUILDINGS;",
    "CITYSCAPE;DERELICT HOUSE BUILDING;CLASSICAL BUILDING;DESERT;!ISLAND;NATIONAL PARK;STADIUM;",
    "HOUSE BUILDING;!bGARDEN;OFFICE BUILDING;JAPANESE POST OFFICE;EUROPEAN POST OFFICE;HOSPITAL;",
    "BANK;AUTOMATED TELLER MACHINE;HOTEL;LOVE HOTEL;CONVENIENCE STORE;SCHOOL;DEPARTMENT STORE;",
    "FACTORY;IZAKAYA LANTERN;JAPANESE CASTLE;EUROPEAN CASTLE;olPENNANT;okPENNANT;WAVINGolFLAG;",
    "!okFLAG;ROSETTE;okROSETTE;LABEL;BADMINTON RACQUETojSHUTTLECOCK;BOWojf;AMPHORA;",
    "EMOJIsrFITZPATRICK TYPE-1-2;$TYPE-3;$TYPE-4;$TYPE-5;$TYPE-6;RAT;MOUSE;OX;WATER BUFFALO;COW;",
    "TIGER;LEOPARD;RABBIT;CAT;DRAGON;CROCODILE;WHALE;SNAIL;SNAKE;HORSE;RAM;GOAT;SHEEP;MONKEY;",
    "ROOSTER;CHICKEN;DOG;PIG;BOAR;ELEPHANT;OCTOPUS;SPIRALym;BUG;ANT;HONEYBEE;LADY BEETLE;FISH;",
    "TROPICAL FISH;BLOWFISH;TURTLE;HATCHING CHICK;BABY CHICK;FRONT-FACING BABY CHICK;BIRD;",
    "PENGUIN;KOALA;POODLE;DROMEDARY CAMEL;BACTRIAN CAMEL;DOLPHIN;MOUSEqp;COWqp;TIGERqp;RABBITqp;",
    "CATqp;DRAGONqp;SPOUTING WHALE;HORSEqp;MONKEYqp;DOGqp;PIGqp;FROGqp;HAMSTERqp;WOLFqp;BEARqp;",
    "PANDAqp;PIG NOSE;PAW PRINTS;CHIPMUNK;EYES;EYE;EAR;NOSE;zn;TONGUE;olytppBACKHANDpx;",
    "!qjppBACKHANDpx;!odppBACKHANDpx;!hppBACKHANDpx;FISTEDywg;WAVINGywg;OKywg;THUMBSytg;!qjg;",
    "CLAPPING HANDSg;seHANDSg;CROWN;WOMANS HAT;EYEGLASSES;NECKTIE;T-SHIRT;JEANS;DRESS;KIMONO;",
    "BIKINI;WOMANS CLOTHES;PURSE;HANDBAG;POUCH;MANS SHOE;ATHLETIC SHOE;HIGH-HEELED SHOE;",
    "WOMANS SANDAL;!BOOTS;FOOTPRINTS;BUST IN SILHOUETTE;BUSTS IN SILHOUETTE;BOY;GIRL;MAN;WOMAN;",
    "FAMILY;MANojWOMAN HOLDING HANDS;pjMEN HOLDING HANDS;!WOMEN HOLDING HANDS;POLICE OFFICER;",
    "WOMANbBUNNY EARS;BRIDEbVEIL;ztbBLOND HAIR;MANbGUA PI MAO;#TURBAN;OLDER MAN;!WOMAN;BABY;",
    "CONSTRUCTION WORKER;PRINCESS;JAPANESE OGRE;!GOBLIN;GHOST;BABY ANGEL;EXTRATERRESTRIAL ALIEN;",
    "ALIEN MONSTER;IMP;SKULL;INFORMATION DESKzt;GUARDSMAN;DANCER;LIPSTICK;NAIL POLISH;qpMASSAGE;",
    "HAIRCUT;BARBER POLE;SYRINGE;PILL;KISSoq;LOVEa;rm;GEM STONE;KISS;BOUQUET;COUPLEbww;WEDDING;",
    "BEATINGww;BROKENww;pjzg;SPARKLINGww;GROWINGww;wwbf;BLUEww;GREENww;YELLOWww;PURPLEww;",
    "wwbRIBBON;REVOLVINGzg;wwDECORATION;rzSHAPEbApnye;ELECTRICpyBULB;ANGERoh;BOMB;SLEEPINGoh;",
    "COLLISIONoh;SPLASHING SWEAToh;DROPLET;wtoh;PILEwhPOO;FLEXED BICEPS;DIZZYoh;SPEECH BALLOON;",
    "THOUGHT BALLOON;olFLOWER;onPOINTSoh;MONEY BAG;CURRENCY EXCHANGE;owDOLLARg;CREDIT CARD;",
    "BANKNOTEbYENg;#DOLLARg;#EUROg;#POUNDg;MONEYbWINGS;CHARTbpfTRENDojYENg;SEAT;",
    "PERSONAL COMPUTER;BRIEFCASE;MINIDISC;FLOPPY DISK;OPTICAL DISC;DVD;FILE FOLDER;",
    "seFILE FOLDER;PAGEbCURL;!FACINGyt;CALENDAR;TEAR-OFF CALENDAR;CARDpx;CHARTbpfTREND;#ooTREND;",
    "ryCHART;CLIPBOARD;PUSHPIN;ROUND PUSHPIN;PAPERCLIP;ubRULER;sxRULER;BOOKMARK TABS;LEDGER;",
    "NOTEBOOK;!bDECORATIVE COVER;tyBOOK;seBOOK;GREEN BOOK;BLUE BOOK;ORANGE BOOK;BOOKS;",
    "NAME BADGE;SCROLL;MEMO;xzRECEIVER;PAGER;FAX MACHINE;SATELLITE ANTENNA;",
    "PUBLIC ADDRESS LOUDSPEAKER;CHEERING MEGAPHONE;OUTBOX TRAY;INBOX TRAY;PACKAGE;E-MAILoh;",
    "INCOMING ENVELOPE;ENVELOPEboofi;tyMAILBOXbLOWERED FLAG;$vwFLAG;seMAILBOXbvwFLAG;",
    "$LOWERED FLAG;POSTBOX;POSTALyg;NEWSPAPER;MOBILE PHONE;#bkfATod;VIBRATION MODE;",
    "MOBILE PHONE OFF;NO MOBILE PHONES;ANTENNAbBARS;CAMERA;!bFLASH;VIDEO CAMERA;TELEVISION;",
    "RADIO;VIDEOCASSETTE;FILM PROJECTOR;PORTABLE STEREO;PRAYER BEADS;TWISTEDkzq;xdkojoasepczq;",
    ")bqxpkvh;!ooojpfsepczq;sgooojpfsepczq;uoBRIGHTNESSoh;stBRIGHTNESSoh;SPEAKERbCANCELLATIONog;",
    "!;!bpkSOUND WAVE;#ofSOUND WAVES;BATTERY;ELECTRIC PLUG;rsMAGNIFYING GLASS;",
    "quMAGNIFYING GLASS;LOCKbINK PEN;tyLOCKbKEY;KEY;LOCK;seLOCK;BELL;!bCANCELLATIONog;BOOKMARK;",
    "LINKoh;RADIO BUTTON;BACKboafi;ENDboafi;ONbrpoqbodhfi;SOONbkfi;TOPbpffi;",
    "NOpkUNDER EIGHTEENoh;KEYCAPvo;INPUTohFORszcLETTERS;%dLETTERS;$NUMBERS;$SYMBOLS;$szLETTERS;",
    "FIRE;ELECTRIC TORCH;WRENCH;HAMMER;NUTojBOLT;HOCHO;PISTOL;MICROSCOPE;TELESCOPE;CRYSTAL BALL;",
    "rtssulbompn;JAPANESEohFOR BEGINNER;TRIDENT EMBLEM;okoyBUTTON;oloyBUTTON;rnREDpc;!BLUEpc;",
    "!ORANGErz;!BLUErz;dORANGErz;!BLUErz;uyREDot;uqREDot;uydREDot;uqdREDot;qfhykolpc;qwhykolpc;",
    "qxttPOMMEE;ttPOMMEEbHALF-CIRCLEm;#;NOTCHEDodSEMICIRCLEbofqy;!hSEMICIRCLEbofqy;",
    "ohFOR MARKS CHAPTER;olsztt;owsztt;CELTICtt;OMoh;DOVEwhPEACE;KAABA;MOSQUE;SYNAGOGUE;",
    "MENORAHbqlBRANCHES;BOWLwhHYGIEIA;CLOCKqppkOCLOCK;#pjOCLOCK;#ofOCLOCK;#pdOCLOCK;#phOCLOCK;",
    "#rtOCLOCK;#piOCLOCK;#paOCLOCK;#qlOCLOCK;#voOCLOCK;#ELEVEN OCLOCK;#TWELVE OCLOCK;",
    "#ONE-THIRTY;#TWO-THIRTY;#THREE-THIRTY;#FOUR-THIRTY;#FIVE-THIRTY;#SIX-THIRTY;#SEVEN-THIRTY;",
    "#EIGHT-THIRTY;#NINE-THIRTY;#TEN-THIRTY;#ELEVEN-THIRTY;#TWELVE-THIRTY;hSPEAKER;",
    "#bpkSOUND WAVE;$ofSOUND WAVES;BULLHORN;!bSOUND WAVES;RINGING BELL;BOOK;CANDLE;",
    "MANTELPIECE CLOCK;okSKULLojCROSSBONES;NO PIRACY;HOLE;MAN IN BUSINESS SUIT LEVITATING;",
    "SLEUTH OR SPY;DARK SUNGLASSES;SPIDER;!WEB;JOYSTICK;MAN DANCING;odywxzRECEIVER;",
    "xzRECEIVERbPAGE;hywxzRECEIVER;olTOUCHTONExz;okTOUCHTONExz;xzON TOPwhMODEM;",
    "CLAMSHELL MOBILE PHONE;BACKwhENVELOPE;STAMPED ENVELOPE;ENVELOPEbLIGHTNING;FLYING ENVELOPE;",
    "PENrfSTAMPED ENVELOPE;LINKED PAPERCLIPS;okPUSHPIN;qfodPENCIL;#BALLPOINT PEN;#FOUNTAIN PEN;",
    "#PAINTBRUSH;#CRAYON;odWRITINGyw;pzOKywg;vwywbvaSPLAYED;pgvwywbvaSPLAYED;!THUMBSytg;#qjg;",
    "!VICTORYyw;!ywbomFINGER EXTENDED;vwywbPARTxmomojrmva;olqjppodywpx;SIDEWAYSolodpppx;#hpppx;",
    "!okodpppx;#hpppx;okodppBACKHANDpx;!hppBACKHANDpx;SIDEWAYSolytpppx;#qjpppx;!okytpppx;",
    "#qjpppx;okytppBACKHANDpx;!qjppBACKHANDpx;!ww;DESKTOP COMPUTER;KEYBOARDojMOUSE;",
    "ofNETWORKED COMPUTERS;PRINTER;POCKET CALCULATOR;okHARDymFLOPPY DISK;olHARDymFLOPPY DISK;",
    "SOFTymFLOPPY DISK;TAPE CARTRIDGE;WIRED KEYBOARD;pkBUTTON MOUSE;pjBUTTON MOUSE;",
    "ofBUTTON MOUSE;TRACKBALL;yaPERSONAL COMPUTER;HARD DISK;SCREEN;PRINTER ICON;FAX ICON;",
    "OPTICAL DISC ICON;DOCUMENTbTEXT;$ojPICTURE;#PICTURE;FRAMEbPICTURE;#TILES;#AN X;okFOLDER;",
    "FOLDER;seFOLDER;CARDpxDIVIDERS;!FILE BOX;FILE CABINET;EMPTY NOTE;#PAGE;#PAD;NOTE;!PAGE;",
    "!PAD;EMPTY DOCUMENT;!PAGE;!PAGES;DOCUMENT;PAGE;PAGES;WASTEBASKET;SPIRAL NOTE PAD;",
    "!CALENDAR PAD;DESKTOP WINDOW;MINIMIZE;MAXIMIZE;OVERLAP;xdhojodSEMICIRCLEzq;CANCELLATION X;",
    "INCREASE FONT SIZEoh;DECREASE FONT SIZEoh;COMPRESSION;yaKEY;ROLLED-UP NEWSPAPER;",
    "PAGEbqxTEXT;STOCK CHART;DAGGER KNIFE;LIPS;SPEAKING HEAD IN SILHOUETTE;ofRAYSi;#m;#od;#h;",
    "odSPEECH BUBBLE;hSPEECH BUBBLE;pjSPEECH BUBBLES;ofSPEECH BUBBLES;odTHOUGHT BUBBLE;",
    "hTHOUGHT BUBBLE;odANGER BUBBLE;hANGER BUBBLE;MOOD BUBBLE;LIGHTNING MOOD BUBBLE;#;",
    "BALLOT BOXbBALLOT;!wiX;!BOXbwiX;!zowiX;!BOXbzowiX;pyCHECKoq;BALLOT BOXbzoCHECK;WORLD MAP;",
    "MOUNT FUJI;TOKYO TOWER;STATUEwhLIBERTY;SILHOUETTEwhJAPAN;MOYAI;GRINNINGqp;#bxpEYES;",
    "qpbTEARSwhJOY;xpqpbsezn;&ojxpEYES;(COLD SWEAT;(TIGHTLY-CLOSED EYES;$HALO;$HORNS;WINKINGqp;",
    "xpqpbxpEYES;qpSAVOURING DELICIOUS FOOD;RELIEVEDqp;xpqpbHEART-SHAPED EYES;$SUNGLASSES;",
    "SMIRKINGqp;vrqp;EXPRESSIONLESSqp;UNAMUSEDqp;qpbCOLD SWEAT;PENSIVEqp;CONFUSEDqp;",
    "CONFOUNDEDqp;KISSINGqp;qpTHROWING A KISS;KISSINGqpbxpEYES;$tyEYES;qpbSTUCK-OUT TONGUE;",
    "%ojWINKING EYE;&TIGHTLY-CLOSED EYES;DISAPPOINTEDqp;WORRIEDqp;ANGRYqp;POUTINGqp;CRYINGqp;",
    "PERSEVERINGqp;qpbLOOKwhTRIUMPH;DISAPPOINTED BUT RELIEVEDqp;FROWNINGqpbsezn;ANGUISHEDqp;",
    "FEARFULqp;WEARYqp;SLEEPYqp;TIREDqp;GRIMACINGqp;LOUDLY CRYINGqp;qpbsezn;HUSHEDqp;",
    "qpbseznojCOLD SWEAT;!SCREAMING IN FEAR;ASTONISHEDqp;FLUSHEDqp;SLEEPINGqp;DIZZYqp;",
    "qpWITHOUTzn;!bMEDICAL MASK;GRINNING CATqpbxpEYES;CATqpbTEARSwhJOY;xpCATqpbsezn;",
    "%HEART-SHAPED EYES;CATqpbWRY SMILE;KISSING CATqpbtyEYES;POUTING CATqp;CRYING CATqp;",
    "WEARY CATqp;SLIGHTLY FROWNINGqp;!xpqp;UPSIDE-DOWNqp;qpbROLLING EYES;#NO GOOD GESTURE;",
    "#OK GESTURE;ztBOWING DEEPLY;SEE-NO-EVIL MONKEY;HEAR-NO-EVIL MONKEY;SPEAK-NO-EVIL MONKEY;",
    "HAPPYztRAISINGpkyw;ztRAISING BOTH HANDS IN CELEBRATION;!FROWNING;!bPOUTINGqp;#FOLDED HANDS;",
    "tpuwppLEAF;ukuwppLEAF;tptzppLEAF;uktzppLEAF;pztpuwppLEAF;!ukuwppLEAF;!tptzppLEAF;",
    "!uktzppLEAF;tpuwppVINE LEAF;ukuwppVINE LEAF;tptzppVINE LEAF;uktzppVINE LEAF;",
    "owtpuwppVINE LEAF;!ukuwppVINE LEAF;!tptzppVINE LEAF;!uktzppVINE LEAF;tpuwppBUD;ukuwppBUD;",
    "tptzppBUD;uktzppBUD;owtpuwppBUD;!ukuwppBUD;!tptzppBUD;!uktzppBUD;HOLLOW QUILToyqk;%INokoy;",
    "SOLID QUILToyqk;%INokoy;oaROCKET;pfROCKET;kROCKET;ooROCKET;wirvETqk;owwirvETqk;rvseETqk;",
    "owrvseETqk;!AMPERSANDqk;SWASH AMPERSANDqk;sqowlpzsbrwoqqk;$sbrwoqqk;#uolsbrwoqqk;",
    "owINTERROBANGqk;sqINTERROBANGqk;owsqINTERROBANGqk;VERYowvc;#wcvc;CHECKER BOARD;",
    "wcCHECKER BOARD;ROCKET;HELICOPTER;STEAM LOCOMOTIVE;RAILWAY CAR;HIGH-SPEED TRAIN;",
    "#bBULLET NOSE;TRAIN;METRO;pyRAIL;STATION;TRAM;!CAR;BUS;ONCOMING BUS;TROLLEYBUS;BUSta;",
    "MINIBUS;AMBULANCE;FIRE ENGINE;POLICE CAR;ONCOMING POLICE CAR;TAXI;ONCOMING TAXI;AUTOMOBILE;",
    "ONCOMING AUTOMOBILE;RECREATIONAL VEHICLE;DELIVERY TRUCK;ARTICULATED LORRY;TRACTOR;MONORAIL;",
    "MOUNTAIN RAILWAY;SUSPENSION RAILWAY;MOUNTAIN CABLEWAY;AERIAL TRAMWAY;SHIP;ROWBOAT;",
    "SPEEDBOAT;oiTRAFFICpy;obTRAFFICpy;CONSTRUCTIONg;POLICE CARS REVOLVINGpy;sxFLAG ON POST;",
    "DOOR;NO ENTRYg;SMOKINGoh;NO SMOKINGoh;PUT LITTER IN ITS PLACEoh;DOxxLITTERoh;",
    "POTABLE WATERoh;NON-POTABLE WATERoh;BICYCLE;NO BICYCLES;BICYCLIST;MOUNTAIN BICYCLIST;",
    "PEDESTRIAN;NO PEDESTRIANS;CHILDRENsl;MENSoh;WOMENSoh;RESTROOM;BABYoh;TOILET;WATER CLOSET;",
    "SHOWER;BATH;BATHTUB;PASSPORT CONTROL;CUSTOMS;BAGGAGE CLAIM;odLUGGAGE;otbROUNDED CORNERS;",
    "PROHIBITEDg;qxINFORMATION SOURCE;BOYSoh;GIRLSoh;COUCHojLAMP;SLEEPING ACCOMMODATION;",
    "SHOPPING BAGS;BELLHOP BELL;BED;PLACEwhWORSHIP;OCTAGONALg;SHOPPING TROLLEY;STUPA;PAGODA;",
    "HINDU TEMPLE;HUT;ELEVATOR"]),
  (0x1f6dd, ["PLAYGROUND SLIDE;WHEEL;rmBUOY;HAMMERojWRENCH;SHIELD;OIL DRUM;MOTORWAY;",
    "RAILWAY TRACK;MOTOR BOAT;uyMILITARY AIRPLANE;!AIRPLANE;!dAIRPLANE;dAIRPLANE;",
    "NORTHEAST-POINTING AIRPLANE;AIRPLANE DEPARTURE;!ARRIVING;;;;SATELLITE;ONCOMING FIRE ENGINE;",
    "DIESEL LOCOMOTIVE;PASSENGER SHIP;SCOOTER;MOTOR SCOOTER;CANOE;SLED;FLYING SAUCER;SKATEBOARD;",
    "AUTO RICKSHAW;PICKUP TRUCK;ROLLER SKATE;;;;ALCHEMICALohFOR QUINTESSENCE;$AIR;$FIRE;$EARTH;",
    "$WATER;$AQUAFORTIS;$AQUA REGIA;%REGIA-2;%VITAE;%VITAE-2;$VINEGAR;$VINEGAR-2;$VINEGAR-3;",
    "$SULFUR;$PHILOSOPHERS SULFUR;$okSULFUR;$MERCURY SUBLIMATE;%SUBLIMATE-2;%SUBLIMATE-3;",
    "$CINNABAR;$SALT;$NITRE;$VITRIOL;$VITRIOL-2;$ROCK SALT;%SALT-2;$GOLD;$SILVER;$IRON ORE;",
    "%ORE-2;$CROCUSwhIRON;$REGULUSwhIRON;$COPPER ORE;$IRON-COPPER ORE;$SUBLIMATEwhCOPPER;",
    "$CROCUSwhCOPPER;&COPPER-2;$COPPER ANTIMONIATE;$SALTwhCOPPER ANTIMONIATE;",
    "$SUBLIMATEwhSALTwhCOPPER;$VERDIGRIS;$TIN ORE;$LEAD ORE;$ANTIMONY ORE;$SUBLIMATEwhANTIMONY;",
    "$SALTwhANTIMONY;$SUBLIMATEwhSALTwhANTIMONY;$VINEGARwhANTIMONY;$REGULUSwhANTIMONY;",
    "&ANTIMONY-2;%;$REGULUS-2;$REGULUS-3;$REGULUS-4;$ALKALI;$ALKALI-2;$MARCASITE;$SAL-AMMONIAC;",
    "$ARSENIC;$REALGAR;$REALGAR-2;$AURIPIGMENT;$BISMUTH ORE;$TARTAR;$TARTAR-2;$QUICK LIME;",
    "$BORAX;$BORAX-2;$BORAX-3;$ALUM;$OIL;$SPIRIT;$TINCTURE;$GUM;$WAX;$POWDER;$CALX;$TUTTY;",
    "$CAPUT MORTUUM;$SCEPTERwhJOVE;$CADUCEUS;$TRIDENT;$STARRED TRIDENT;$LODESTONE;$SOAP;$URINE;",
    "$HORSE DUNG;$ASHES;$POT ASHES;$BRICK;$POWDERED BRICK;$AMALGAM;$STRATUM SUPER STRATUM;",
    "&STRATUM-2;$SUBLIMATION;$PRECIPITATE;$DISTILL;$DISSOLVE;$DISSOLVE-2;$PURIFY;$PUTREFACTION;",
    "$CRUCIBLE;$CRUCIBLE-2;$CRUCIBLE-3;$CRUCIBLE-4;$CRUCIBLE-5;$ALEMBIC;$BATHwhMARY;&VAPOURS;",
    "$RETORT;$HOUR;$NIGHT;$DAY-NIGHT;$MONTH;$qhDRAM;%OUNCE"]),
  (0x1f780, ["okrsISOSCELEShot;!uyISOSCELEShot;!quISOSCELEShot;!uqISOSCELEShot;!SLIGHTLYdpc;",
    "pqzoolpc;zoolpc;owolpc;VERYowolpc;EXTREMELYowolpc;olpcCONTAININGokdpc;ROUND TARGET;",
    "okTINYoy;!SLIGHTLYdoy;pyoloy;pqoloy;zooloy;owoloy;VERYowoloy;EXTREMELYowoloy;",
    "oloyCONTAININGokVERYdoy;%pqoy;oyTARGET;okTINYrz;!VERYdrz;!pqdrz;olrzCONTAININGokVERYdrz;",
    "%pqrz;rzTARGET;okTINYzz;!VERYdzz;!pqdzz;olzzCONTAININGokdzz;THINxvtt;pyxvtt;pqxvtt;zoxvtt;",
    "VERYzoxvtt;!owxvtt;EXTREMELYowxvtt;THIN SALTIRE;pySALTIRE;pqSALTIRE;zoSALTIRE;owSALTIRE;",
    "VERYowSALTIRE;EXTREMELYowSALTIRE;pyphysqv;pqphysqv;zophysqv;owphysqv;VERYowphysqv;",
    "EXTREMELYowphysqv;pyrtysqv;pqrtysqv;zortysqv;owrtysqv;VERYowrtysqv;EXTREMELYowrtysqv;",
    "pypaysqv;pqpaysqv;zopaysqv;owpaysqv;VERYowpaysqv;pyofssokul;pqofssokul;ofssokul;",
    "pqofssPINWHEELul;pypdssokul;pqpdssokul;pdssokul;pqpdssPINWHEELul;wcpypdssPINWHEELul;",
    "pyphssokul;owphssokul;pqrtssokul;owrtssokul;rtssPINWHEELul;pqpassokul;owpassokul;",
    "VERYowpassokul;owpassPINWHEELul;pyTWELVEssokul;owTWELVEssokul;$PINWHEELul;qxot;xfqxot;qxoy;",
    "xfqxoy"]),
  (0x1f7e0, ["rnORANGEpc;!YELLOWpc;!GREENpc;!PURPLEpc;!BROWNpc;!REDoy;!BLUEoy;!ORANGEoy;",
    "!YELLOWoy;!GREENoy;!PURPLEoy;!BROWNoy"]),
  (0x1f7f0, ["owuag"]),
  (0x1f800, ["oafbdotoz;pffbdotoz;kfbdotoz;oofbdotoz;oafbpqotoz;pffbpqotoz;kfbpqotoz;oofbpqotoz;",
    "oafbrnotoz;pffbrnotoz;kfbrnotoz;oofbrnotoz"]),
  (0x1f810, ["oafbdruoz;pffbdruoz;kfbdruoz;oofbdruoz;oafbruoz;pffbruoz;kfbruoz;oofbruoz;",
    "owoafbruoz;!pffbruoz;!kfbruoz;!oofbruoz;!oafbrnruoz;!pffbrnruoz;!kfbrnruoz;!oofbrnruoz;",
    "oaoefbNARROWzb;pfoefbNARROWzb;koefbNARROWzb;oooefbNARROWzb;oaoefbpqzb;pfoefbpqzb;koefbpqzb;",
    "oooefbpqzb;oaoefbzozb;pfoefbzozb;koefbzozb;oooefbzozb;oaoefbowzb;pfoefbowzb;koefbowzb;",
    "oooefbowzb;oaoefbVERYowzb;pfoefbVERYowzb;koefbVERYowzb;oooefbVERYowzb;oaFINGER-POSTf;",
    "pfFINGER-POSTf;kFINGER-POSTf;ooFINGER-POSTf;oasnf;pfsnf;ksnf;oosnf;oaCOMPRESSEDf;",
    "pfCOMPRESSEDf;kCOMPRESSEDf;ooCOMPRESSEDf;oaowCOMPRESSEDf;pfowCOMPRESSEDf;kowCOMPRESSEDf;",
    "ooowCOMPRESSEDf;oaowf;pfowf;kowf;ooowf"]),
  (0x1f850, ["oasqf;pfsqf;ksqf;oosqf;tpuwsqf;!tzsqf;uktzsqf;!uwsqf;odhsqf;ytqjsqf"]),
  (0x1f860, ["WIDE-HEADEDoapyrrf;!pfpyrrf;!kpyrrf;!oopyrrf;!tpuwpyrrf;#tzpyrrf;!uktzpyrrf;",
    "#uwpyrrf;!oarrf;!pfrrf;!krrf;!oorrf;!tpuwrrf;#tzrrf;!uktzrrf;#uwrrf;!oapqrrf;!pfpqrrf;",
    "!kpqrrf;!oopqrrf;!tpuwpqrrf;#tzpqrrf;!uktzpqrrf;#uwpqrrf;!oaowrrf;!pfowrrf;!kowrrf;",
    "!ooowrrf;!tpuwowrrf;#tzowrrf;!uktzowrrf;#uwowrrf;!oaVERYowrrf;!pfVERYowrrf;!kVERYowrrf;",
    "!ooVERYowrrf;!tpuwVERYowrrf;#tzVERYowrrf;!uktzVERYowrrf;#uwVERYowrrf"]),
  (0x1f890, ["oaotoz;pfotoz;kotoz;oootoz;oaolfWITHINotoz;pfolfWITHINotoz;kolfWITHINotoz;",
    "ooolfWITHINotoz;oafbNOTCHEDus;pffbNOTCHEDus;kfbNOTCHEDus;oofbNOTCHEDus;owfzbWIDTHpk;",
    "%pjTHIRDS;%pkqh;&THIRD;oaBOTTOM-SHADEDolf;kumSHADEDolf;oaTOP SHADEDolf;kTOP SHADEDolf;",
    "oaLEFT-SHADEDolf;kRIGHT-SHADEDolf;oaRIGHT-SHADEDolf;kLEFT-SHADEDolf;oaBACK-TILTEDykolf;",
    "kBACK-TILTEDykolf;oaFRONT-TILTEDykolf;kFRONT-TILTEDykolf;olfzbWIDTHpk;%pjTHIRDS;;;",
    "fpppfTHENtpuw;#kTHEN CURVINGukuw"]),
  (0x1f900, ["qxttFORMEEbpdqy;%pjqy;$;odqhpcbpdqy;%ofqy;%pjqy;%pn;$;DOWNWARD FACINGpe;",
    "#NOTCHEDpe;#pebpn;#NOTCHEDpebpn;PINCHEDva;olww;BROWNww;PINCHINGyw;ZIPPER-MOUTHqp;",
    "MONEY-MOUTHqp;qpbTHERMOMETER;NERDqp;THINKINGqp;qpbHEAD-BANDAGE;ROBOTqp;HUGGINGqp;",
    "gwhTHE HORNS;CALL MEyw;vwBACKwhyw;LEFT-FACING FIST;RIGHT-FACING FIST;HANDSHAKE;",
    "ywbpxojomvazw;I LOVE YOUywg;qpbCOWBOY HAT;CLOWNqp;NAUSEATEDqp;",
    "ROLLING ON THE FLOOR LAUGHING;DROOLINGqp;LYINGqp;qpPALM;SNEEZINGqp;qpbpkEYEBROWvw;",
    "GRINNINGqpbulEYES;$pkrnojpkdEYE;qpbFINGER COVERINGtyLIPS;SERIOUSqpbSYMBOLS COVERINGzn;",
    "xpqpbxpEYESojywCOVERINGzn;qpbseznVOMITING;SHOCKEDqpbEXPLODING HEAD;PREGNANT WOMAN;",
    "BREAST-FEEDING;PALMSytTOGETHER;SELFIE;PRINCE;MAN IN TUXEDO;MOTHER CHRISTMAS;SHRUG;",
    "ztDOING CARTWHEEL;JUGGLING;FENCER;MODERN PENTATHLON;WRESTLERS;WATER POLO;HANDBALL;",
    "DIVING MASK;WILTED FLOWER;DRUMbDRUMSTICKS;CLINKING GLASSES;TUMBLER GLASS;SPOON;GOAL NET;",
    "RIFLE;FIRST PLACE MEDAL;SECOND PLACE MEDAL;THIRD PLACE MEDAL;BOXING GLOVE;",
    "MARTIAL ARTS UNIFORM;CURLING STONE;LACROSSE STICKojBALL;SOFTBALL;FLYING DISC;CROISSANT;",
    "AVOCADO;CUCUMBER;BACON;POTATO;CARROT;BAGUETTE BREAD;GREEN SALAD;SHALLOW PANwhFOOD;",
    "STUFFED FLATBREAD;EGG;GLASSwhMILK;PEANUTS;KIWIFRUIT;PANCAKES;DUMPLING;FORTUNE COOKIE;",
    "TAKEOUT BOX;CHOPSTICKS;BOWLbSPOON;CUPbSTRAW;COCONUT;BROCCOLI;PIE;PRETZEL;CUTwhMEAT;",
    "SANDWICH;CANNED FOOD;LEAFY GREEN;MANGO;MOON CAKE;BAGEL;xpqpbxpEYESojofzg;YAWNINGqp;",
    "xpqpbTEAR;qpbPARTYygojPARTY HAT;#UNEVEN EYESojWAVYzn;OVERHEATEDqp;FREEZINGqp;NINJA;",
    "DISGUISEDqp;qpHOLDING BACK TEARS;!bPLEADING EYES;SARI;LAB COAT;GOGGLES;HIKING BOOT;",
    "FLAT SHOE;CRAB;LIONqp;SCORPION;TURKEY;UNICORNqp;EAGLE;DUCK;BAT;SHARK;OWL;FOXqp;BUTTERFLY;",
    "DEER;GORILLA;LIZARD;RHINOCEROS;SHRIMP;SQUID;GIRAFFEqp;ZEBRAqp;HEDGEHOG;SAUROPOD;T-REX;",
    "CRICKET;KANGAROO;LLAMA;PEACOCK;HIPPOPOTAMUS;PARROT;RACCOON;LOBSTER;MOSQUITO;MICROBE;BADGER;",
    "SWAN;MAMMOTH;DODO;SLOTH;OTTER;ORANGUTAN;SKUNK;FLAMINGO;OYSTER;BEAVER;BISON;SEAL;GUIDE DOG;",
    "PROBING CANE;EMOJI COMPONENT RED HAIR;#xsHAIR;#BALD;#olHAIR;BONE;LEG;FOOT;TOOTH;SUPERHERO;",
    "SUPERVILLAIN;SAFETY VEST;EARbHEARING AID;MOTORIZED WHEELCHAIR;MANUAL WHEELCHAIR;",
    "MECHANICAL ARM;!LEG;CHEESE WEDGE;CUPCAKE;SALT SHAKER;BEVERAGE BOX;GARLIC;ONION;FALAFEL;",
    "WAFFLE;BUTTER;MATE DRINK;ICE CUBE;BUBBLE TEA;TROLL;STANDINGzt;KNEELINGzt;DEAFzt;qpbMONOCLE;",
    "ADULT;CHILD;OLDER ADULT;BEARDEDzt;ztbHEADSCARF;!IN STEAMY ROOM;!CLIMBING;",
    "!IN LOTUS POSITION;MAGE;FAIRY;VAMPIRE;MERPERSON;ELF;GENIE;ZOMBIE;BRAIN;ORANGEww;BILLED CAP;",
    "SCARF;GLOVES;COAT;SOCKS;RED GIFT ENVELOPE;FIRECRACKER;JIGSAW PUZZLE PIECE;TEST TUBE;",
    "PETRI DISH;DNAlHELIX;COMPASS;ABACUS;FIRE EXTINGUISHER;TOOLBOX;BRICK;MAGNET;LUGGAGE;",
    "LOTION BOTTLE;SPOOLwhTHREAD;BALLwhYARN;SAFETY PIN;TEDDY BEAR;BROOM;BASKET;ROLLwhPAPER;",
    "rywhSOAP;SPONGE;RECEIPT;NAZAR AMULET;vrweKING;#QUEEN;#ROOK;#BISHOP;#vj;#PAWN;",
    "olwevjqiFORTY-FIVErd;okwevjqiFORTY-FIVErd;vrwevjqiFORTY-FIVErd;olweKINGqitnrd;#QUEENqitnrd;",
    "#ROOKqitnrd;#BISHOPqitnrd;#vjqitnrd;#PAWNqitnrd;okweKINGqitnrd;#QUEENqitnrd;#ROOKqitnrd;",
    "#BISHOPqitnrd;#vjqitnrd;#PAWNqitnrd;vrweKINGqitnrd;#QUEENqitnrd;#ROOKqitnrd;#BISHOPqitnrd;",
    "#vjqitnrd;#PAWNqitnrd;olwevjqipkonTHIRTY-FIVErd;okwevjqipkonTHIRTY-FIVErd;",
    "vrwevjqipkonTHIRTY-FIVErd;olwepzKING;$QUEEN;$ROOK;$BISHOP;$vj;$PAWN;okwepzKING;$QUEEN;",
    "$ROOK;$BISHOP;$vj;$PAWN;vrwepzKING;$QUEEN;$ROOK;$BISHOP;$vj;$PAWN;",
    "olwevjqipjonTWENTY-FIVErd;okwevjqipjonTWENTY-FIVErd;vrwevjqipjonTWENTY-FIVErd;",
    "olweKINGqipjonswrd;#QUEENqipjonswrd;#ROOKqipjonswrd;#BISHOPqipjonswrd;#vjqipjonswrd;",
    "#PAWNqipjonswrd;okweKINGqipjonswrd;#QUEENqipjonswrd;#ROOKqipjonswrd;#BISHOPqipjonswrd;",
    "#vjqipjonswrd;#PAWNqipjonswrd;vrweKINGqipjonswrd;#QUEENqipjonswrd;#ROOKqipjonswrd;",
    "#BISHOPqipjonswrd;#vjqipjonswrd;#PAWNqipjonswrd;olwevjqiofonFIFTEENrd;",
    "okwevjqiofonFIFTEENrd;vrwevjqiofonFIFTEENrd;olweEQUIHOPPER;okweEQUIHOPPER;vrweEQUIHOPPER;",
    "olweEQUIHOPPERqitnrd;okweEQUIHOPPERqitnrd;vrweEQUIHOPPERqitnrd;olweKNIGHT-QUEEN;",
    "#KNIGHT-ROOK;#KNIGHT-BISHOP;okweKNIGHT-QUEEN;#KNIGHT-ROOK;#KNIGHT-BISHOP"]),
  (0x1fa60, ["XIANGQI RED GENERAL;#MANDARIN;#ELEPHANT;#HORSE;#CHARIOT;#CANNON;#SOLDIER;",
    "!okGENERAL;#MANDARIN;#ELEPHANT;#HORSE;#CHARIOT;#CANNON;#SOLDIER;;;BALLET SHOES;",
    "ONE-PIECE SWIMSUIT;BRIEFS;SHORTS;THONG SANDAL;;;;DROPwhBLOOD;ADHESIVE BANDAGE;STETHOSCOPE;",
    "X-RAY;CRUTCH;;;;YO-YO;KITE;PARACHUTE;BOOMERANG;MAGIC WAND;PINATA;NESTING DOLLS"]),
  (0x1fa90, ["RINGED PLANET;CHAIR;RAZOR;AXE;DIYA LAMP;BANJO;MILITARY HELMET;ACCORDION;sjDRUM;",
    "COIN;CARPENTRY SAW;SCREWDRIVER;LADDER;pe;MIRROR;WINDOW;PLUNGER;SEWING NEEDLE;KNOT;BUCKET;",
    "MOUSE TRAP;TOOTHBRUSH;HEADSTONE;PLACARD;ROCK;MIRROR BALL;IDENTIFICATION CARD;uoBATTERY;",
    "HAMSA;;;;FLY;WORM;BEETLE;COCKROACH;POTTED PLANT;WOOD;FEATHER;LOTUS;CORAL;EMPTY NEST;",
    "NESTbEGGS"]),
  (0x1fac0, ["ANATOMICALww;LUNGS;PEOPLE HUGGING;PREGNANT MAN;!zt;ztbCROWN"]),
  (0x1fad0, ["BLUEBERRIES;BELL PEPPER;OLIVE;FLATBREAD;TAMALE;FONDUE;TEAPOT;POURING LIQUID;BEANS;",
    "JAR"]),
  (0x1fae0, ["MELTINGqp;SALUTINGqp;qpbseEYESojywrfzn;#PEEKING EYE;#rbzn;tmtqqp;BITING LIP;",
    "BUBBLES"]),
  (0x1faf0, ["ywbpxFINGERojrhzw;kyw;oayw;PALMqjyw;!ytyw;pxppAT THE VIEWER;wwHANDS"]),
  (0x1fb00, ["siSEXTANT-1;!SEXTANT-2;!SEXTANT-12;!SEXTANT-3;!SEXTANT-13;!SEXTANT-23;",
    "!SEXTANT-123;!SEXTANT-4;!SEXTANT-14;!SEXTANT-24;!SEXTANT-124;!SEXTANT-34;!SEXTANT-134;",
    "!SEXTANT-234;!SEXTANT-1234;!SEXTANT-5;!SEXTANT-15;!SEXTANT-25;!SEXTANT-125;!SEXTANT-35;",
    "!SEXTANT-235;!SEXTANT-1235;!SEXTANT-45;!SEXTANT-145;!SEXTANT-245;!SEXTANT-1245;",
    "!SEXTANT-345;!SEXTANT-1345;!SEXTANT-2345;!SEXTANT-12345;!SEXTANT-6;!SEXTANT-16;!SEXTANT-26;",
    "!SEXTANT-126;!SEXTANT-36;!SEXTANT-136;!SEXTANT-236;!SEXTANT-1236;!SEXTANT-46;!SEXTANT-146;",
    "!SEXTANT-1246;!SEXTANT-346;!SEXTANT-1346;!SEXTANT-2346;!SEXTANT-12346;!SEXTANT-56;",
    "!SEXTANT-156;!SEXTANT-256;!SEXTANT-1256;!SEXTANT-356;!SEXTANT-1356;!SEXTANT-2356;",
    "!SEXTANT-12356;!SEXTANT-456;!SEXTANT-1456;!SEXTANT-2456;!SEXTANT-12456;!SEXTANT-3456;",
    "!SEXTANT-13456;!SEXTANT-23456;qfodsirbqfomodvtqfrl;+h;%qwomodvtqfrl;+h;&odvtqfrl;",
    "!hsirbqwomodvtqwrl;+h;%qfomodvtqwrl;+h;&odvtqwrl;&omodvtqwomh;&rlvtqfomh;&odvtqfomh;",
    "&rlvtqwomh;&odvtqwomh;&rlvtqwh;!odsirbqwrlvtqwomh;&odvtqwomh;&rlvtqfomh;&odvtqfomh;",
    "&rlvtqfh;&omodvtqfomh;qwhsirbqfomodvtqfrl;+h;%qwomodvtqfrl;+h;&odvtqfrl;",
    "!odsirbqwomodvtqwrl;+h;%qfomodvtqwrl;+h;&odvtqwrl;&omodvtqwomh;&rlvtqfomh;&odvtqfomh;",
    "&rlvtqwomh;&odvtqwomh;&rlvtqwh;!hsirbqwrlvtqwomh;&odvtqwomh;&rlvtqfomh;&odvtqfomh;&rlvtqfh;",
    "&omodvtqfomh;!ojhojqfsxofxisi;odojqfojhsxofxisi;qwojodojqfsxofxisi;odojqwojhsxofxisi;",
    "!sxpktesi;qwsxpktesi;hsxpktesi;qfsxpktesi;obpkvqBLOCK-2;$BLOCK-3;$BLOCK-4;$BLOCK-5;",
    "$BLOCK-6;$BLOCK-7;oipkvqBLOCK-2;$BLOCK-3;$BLOCK-4;$BLOCK-5;$BLOCK-6;$BLOCK-7;odojqfpkvqsi;",
    "#qwpkvqsi;hojqwpkvqsi;#qfpkvqsi;qwojqfpkvqsi;oipkvqBLOCK-1358;qwpktesi;!ofynsi;!phynsi;",
    "!ofxisi;!piynsi;hpktesi;!ofynsi;!phynsi;!ofxisi;!piynsi;odqhpqSHADE;hqhpqSHADE;qwqhpqSHADE;",
    "qfqhpqSHADE;INVERSEpqSHADE;qwqhsiojqfqhINVERSEpqSHADE;#INVERSEpqSHADEojqfqhsi;;",
    "odqhINVERSEpqSHADEojhqhsi;CHECKER BOARD FILL;INVERSE CHECKER BOARD FILL;owoiFILL;",
    "qwodvtqfhFILL;!hvtqfodFILL;!ojqfsxqhsi;odojhsxqhsi;qwodsxpqSHADE;!hsxpqSHADE;qfhsxpqSHADE;",
    "!odsxpqSHADE;BOX DRAWINGSpyrbqwrlvtomod;*h;%omodvtqfrl;&hvtqfrl;%qwrlvtomodvtqfrl;*hvtqfrl;",
    "%omodvtqfrlvtomh;)qwrlvtomh;%qwrlvtomodojomhvtqfrl;*hojomodvtqfrl;+vtqfrlvtomod;",
    "*odvtqfrlvtomh;%omodvtqwrlvtomhvtqfrl;&hvtqwrlvtomodvtqfrl;%rz;$oibobog;",
    "ARROWHEAD-SHAPED POINTER;INVERSE CHECKoq;odqhRUNNING MAN;hqhRUNNING MAN;INVERSEoofbTIPoa;",
    "oafojqwojqfpkvqsi;kfojqwojqfpkvqsi;oofojhpkvqsi;pffojhpkvqsi;odqhFOLDER;hqhFOLDER;",
    "VOIDEDxvtt;hsesnpn;xfrbtt;#omhvtqfrl;#rz;olowSALTIREbROUNDED CORNERS;odTHIRDolhpppx;",
    "omTHIRDolhpppx;hTHIRDolhpppx;xfsnsvoq;STICK FIGURE;#bARMSvw;#LEANINGod;$h;#bDRESS;",
    "oluyCHEVRON"]),
  (0x1fbf0, ["SEGMENTEDqerx;#pk;#pj;#of;#pd;#ph;#rt;#pi;#pa;#ql"])]

end Tweaks.Text
