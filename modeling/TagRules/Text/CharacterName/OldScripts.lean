/-!
Names of the letters of scripts that are rare today.
-/
namespace TagRules.CharacterName

/-- Rows of names, each with the code of its first name. -/
def oldScripts : List (Nat × List String) := [
  (0x10000, ["LINEAR B SYLLABLE B008 A,cB038 E,cB028 I,cB061 O,cB010 U,cB001 DA,cB045 DE,cB007 DI,cB014 DO,cB051 DU",
    "cB057 JA,cB046 JE,,cB036 JO,cB065 JU,cB077 KA,cB044 KE,cB067 KI,cB070 KO,cB081 KU,cB080 MA,cB013 ME,cB073 MI",
    "cB015 MO,cB023 MU,cB006 NA,cB024 NE,cB030 NI,cB052 NO,cB055 NU,cB003 PA,cB072 PE,cB039 PI,cB011 PO,cB050 PU",
    "cB016 QA,cB078 QE,cB021 QI,cB032 QO,,cB060 RA,cB027 RE,cB053 RI,cB002 RO,cB026 RU,cB031 SA,cB009 SE,cB041 SI",
    "cB012 SO,cB058 SU,cB059 TA,cB004 TE,cB037 TI,cB005 TO,cB069 TU,cB054 WA,cB075 WE,cB040 WI,cB042 WO,,cB017 ZA",
    "cB074 ZE,,cB020 ZO,cB025 A2,cB043 A3,cB085 AU,cB071 DWE,cB090 DWO,cB048 NWA,cB029 PU2,cB062 PTE,cB076 RA2",
    "cB033 RA3,cB068 RO2,cB066 TA2,cB087 TWE,cB091 TWO,,,bSYMBOL B018,cB019,cB022,cB034,cB047,cB049,cB056,cB063",
    "cB064,cB079,cB082,cB083,cB086,cB089"]),
  (0x10080, ["LINEAR B IDEOGRAM B100 MAN,cB102 WOMAN,cB104 DEER,cB105 EQUID,cB105F MARE,cB105M STALLION,cB106F EWE",
    "cB106M RAM,cB107F SHE-GOAT,cB107M HE-GOAT,cB108F SOW,cB108M BOAR,cB109F COW,cB109M BULL,cB120 WHEAT",
    "cB121 BARLEY,cB122 OLIVE,cB123 SPICE,cB125 CYPERUS,bMONOGRAM B127 KAPO,cB128 KANAKO,bIDEOGRAM B130 OIL",
    "cB131 WINE,cB132,bMONOGRAM B133 AREPA,cB135 MERI,bIDEOGRAM B140 BRONZE,cB141 GOLD,cB142,cB145 WOOL,cB146,cB150",
    "cB151 HORN,cB152,cB153,cB154,bMONOGRAM B156 TURO2,bIDEOGRAM B157,cB158,cB159 CLOTH,cB160,cB161,cB162 GARMENT",
    "cB163 ARMOUR,cB164,cB165,cB166,cB167,cB168,cB169,cB170,cB171,cB172,cB173 MONTH,cB174,cB176 TREE,cB177,cB178",
    "cB179,cB180,cB181,cB182,cB183,cB184,cB185,cB189,cB190,cB191 HELMET,cB220 FOOTSTOOL,cB225 BATHTUB,cB230 SPEAR",
    "cB231 ARROW,cB232,cB233 SWORD,cB234,cB236,cB240 WHEELED CHARIOT,cB241a,cB242 CHARIOT FRAME,cB243 WHEEL,cB245",
    "cB246,bMONOGRAM B247 DIPTE,bIDEOGRAM B248,cB249,cB251,cB252,cB253,cB254 DART,cB255,cB256,cB257,cB258,cB259",
    "cVESSEL B155,dB200,dB201,dB202,dB203,dB204,dB205,dB206,dB207,dB208,dB209,dB210,dB211,dB212,dB213,dB214,dB215",
    "dB216,dB217,dB218,dB219,dB221,dB222,dB226,dB227,dB228,dB229,dB250,dB305"]),
  (0x10100, ["AEGEAN WORD SEPARATOR LINE,cDOT,aCHECK MARK"]),
  (0x10107, ["AEGEAN NUMBER ONE,bTWO,bTHREE,bFOUR,bFIVE,bSIX,bSEVEN,bEIGHT,bNINE,bTEN,bTWENTY,bTHIRTY,bFORTY,bFIFTY",
    "bSIXTY,bSEVENTY,bEIGHTY,bNINETY,bONE HUNDRED,bTWOa,bTHREEa,bFOURa,bFIVEa,bSIXa,bSEVENa,bEIGHTa,bNINEa",
    "bONE THOUSAND,bTWOa,bTHREEa,bFOURa,bFIVEa,bSIXa,bSEVENa,bEIGHTa,bNINEa,bTENa,bTWENTYa,bTHIRTYa,bFORTYa,bFIFTYa",
    "bSIXTYa,bSEVENTYa,bEIGHTYa,bNINETYa,,,,aWEIGHT BASE UNIT,bFIRST SUBUNIT,bSECONDa,bTHIRDa,bFOURTHa",
    "aDRY MEASURE FIRSTa,aLIQUIDc,aMEASURE SECONDa,bTHIRDa,GREEK ACROPHONIC ATTIC ONE QUARTER,dHALF,dDRACHMA,cFIVE",
    "cFIFTY,cFIVE HUNDRED,dTHOUSAND,cFIFTYa,cFIVE TALENTS,cTENa,cFIFTYa,cONE HUNDREDa,cFIVEb,cONE THOUSANDa,cFIVEb",
    "dSTATERS,cTENa,cFIFTYa,cONE HUNDREDa,cFIVEb,cONE THOUSANDa,cTENb,cFIFTYb,cTEN MNAS,bHERAEUM ONE PLETHRON",
    "bTHESPIAN ONE,bHERMIONIANa,bEPIDAUREAN TWO,bTHESPIANa,bCYRENAIC TWO DRACHMAS,bEPIDAUREANb,bTROEZENIAN FIVE,cTEN",
    "dALTERNATE FORM,bHERMIONIAN TEN,bMESSENIANa,bTHESPIANa,cTHIRTY,bTROEZENIAN FIFTY,dALTERNATE FORM",
    "bHERMIONIAN FIFTY,bTHESPIANa,cONE HUNDRED,cTHREEa,bEPIDAUREAN FIVEa,bTROEZENIANb,bTHESPIANb,bCARYSTIANb",
    "bNAXIANb,bTHESPIAN ONE THOUSAND,cFIVEa,bDELPHIC FIVE MNAS,bSTRATIAN FIFTYa,aONE HALF SIGN,dALTERNATE FORM",
    "aTWO THIRDS SIGN,aTHREE QUARTERSa,aYEARa,aTALENTa,aDRACHMAa,aOBOLa,aTWO OBOLSa,aTHREEb,aFOURb,aFIVEb,aMETRETESa",
    "aKYATHOS BASEa,aLITRAa,aOUNKIAa,aXESTESa,aARTABEa,aAROURAa,aGRAMMAa,aTRYBLION BASEa,aZEROa,aONE QUARTERa",
    "aSINUSOIDa,aINDICTIONa,NOMISMAa,,ROMAN SEXTANSa,aUNCIAa,aSEMUNCIAa,aSEXTULAa,aDIMIDIAb,aSILIQUAa,aDENARIUSa",
    "aQUINARIUSa,aSESTERTIUSa,aDUPONDIUSa,aASa,aCENTURIALa,ASCIA SYMBOL,,,,GREEK SYMBOL TAU RHO"]),
  (0x101D0, ["PHAISTOS DISC SIGN PEDESTRIAN,cPLUMED HEAD,cTATTOOEDa,cCAPTIVE,cCHILD,cWOMAN,cHELMET,cGAUNTLET,cTIARA",
    "cARROW,cBOW,cSHIELD,cCLUB,cMANACLES,cMATTOCK,cSAW,cLID,cBOOMERANG,cCARPENTRY PLANE,cDOLIUM,cCOMB,cSLING,cCOLUMN",
    "cBEEHIVE,cSHIP,cHORN,cHIDE,cBULLS LEG,cCAT,cRAM,cEAGLE,cDOVE,cTUNNY,cBEE,cPLANE TREE,cVINE,cPAPYRUS,cROSETTE",
    "cLILY,cOX BACK,cFLUTE,cGRATER,cSTRAINER,cSMALL AXE,cWAVY BAND,cCOMBINING OBLIQUE STROKE"]),
  (0x10280, ["LYCIAN LETTER A,bE,bB,bBH,bG,bD,bI,bW,bZ,bTH,bJ,bK,bQ,bL,bM,bN,bMM,bNN,bU,bP,bKK,bR,bS,bT,bTT,bAN,bEN",
    "bH,bX,,,,CARIAN LETTER A,bP2,bD,bL,bUUU,bR,bLD,bA2,bQ,bB,bM,bO,bD2,bT,bSH,bSH2,bS,bC-18,bU,bNN,bX,bN,bTT2,bP",
    "bSS,bI,bE,bUUUU,bK,bK2,bND,bUU,bG,bG2,bST,bST2,bNG,bII,bC-39,bTT,bUUU2,bRR,bMB,bMB2,bMB3,bMB4,bLD2,bE2,bUUU3"]),
  (0x102E0, ["COPTIC EPACT THOUSANDS MARK,bDIGIT ONE,cTWO,cTHREE,cFOUR,cFIVE,cSIX,cSEVEN,cEIGHT,cNINE,bNUMBER TEN",
    "cTWENTY,cTHIRTY,cFORTY,cFIFTY,cSIXTY,cSEVENTY,cEIGHTY,cNINETY,cONE HUNDRED,cTWOa,cTHREEa,cFOURa,cFIVEa,cSIXa",
    "cSEVENa,cEIGHTa,cNINEa"]),
  (0x10300, ["OLD ITALIC LETTER A,cBE,cKE,cDE,cE,cVE,cZE,cHE,cTHE,cI,cKA,cEL,cEM,cEN,cESH,cO,cPE,cSHE,cKU,cER,cES",
    "cTE,cU,cEKS,cPHE,cKHE,cEF,cERS,cCHE,cII,cUU,cESS,bNUMERAL ONE,cFIVE,cTEN,cFIFTY"]),
  (0x1032D, ["OLD ITALIC LETTER YE,cNORTHERN TSE,cSOUTHERNa,GOTHIC LETTER AHSA,bBAIRKAN,bGIBA,bDAGS,bAIHVUS",
    "bQAIRTHRA,bIUJA,bHAGL,bTHIUTH,bEIS,bKUSMA,bLAGUS,bMANNA,bNAUTHS,bJER,bURUS,bPAIRTHRA,bNINETY,bRAIDA,bSAUIL",
    "bTEIWS,bWINJA,bFAIHU,bIGGWS,bHWAIR,bOTHAL,bNINE HUNDRED"]),
  (0x10350, ["OLD PERMIC LETTER AN,cBUR,cGAI,cDOI,cE,cZHOI,cDZHOI,cZATA,cDZITA,cI,cKOKE,cLEI,cMENOE,cNENOE,cVOOI",
    "cPEEI,cREI,cSII,cTAI,cU,cCHERY,cSHOOI,cSHCHOOI,cYRY,cYERU,cO,cOO,cEF,cHA,cTSIU,cVER,cYER,cYERI,cYAT,cIE,cYU,cYA",
    "cIA,COMBINING OLD PERMIC LETTER AN,dDOI,dZATA,dNENOE,dSII"]),
  (0x10380, ["UGARITIC LETTER ALPA,bBETA,bGAMLA,bKHA,bDELTA,bHO,bWO,bZETA,bHOTA,bTET,bYOD,bKAF,bSHIN,bLAMDA,bMEM",
    "bDHAL,bNUN,bZU,bSAMKA,bAIN,bPU,bSADE,bQOPA,bRASHA,bTHANNA,bGHAIN,bTO,bI,bU,bSSU,,aWORD DIVIDER",
    "OLD PERSIAN SIGN A,cI,cU,cKA,cKU,cGA,cGU,cXA,cCA,cJA,cJI,cTA,cTU,cDA,cDI,cDU,cTHA,cPA,cBA,cFA,cNA,cNU,cMA,cMI",
    "cMU,cYA,cVA,cVI,cRA,cRU,cLA,cSA,cZA,cSHA,cSSA,cHA"]),
  (0x103C8, ["OLD PERSIAN SIGN AURAMAZDAA,cAURAMAZDAA-2,cAURAMAZDAAHA,cXSHAAYATHIYA,cDAHYAAUSH,cDAHYAAUSH-2,cBAGA",
    "cBUUMISH,bWORD DIVIDER,bNUMBER ONE,cTWO,cTEN,cTWENTY,cHUNDRED"]),
  (0x10400, ["DESERET CAPITAL LETTER LONG I,dE,dA,dAH,dO,dOO,cSHORT I,dE,dA,dAH,dO,dOO,cAY,cOW,cWU,cYEE,cH,cPEE,cBEE",
    "cTEE,cDEE,cCHEE,cJEE,cKAY,cGAY,cEF,cVEE,cETH,cTHEE,cES,cZEE,cESH,cZHEE,cER,cEL,cEM,cEN,cENG,cOI,cEW",
    "aSMALL LETTER LONG I,dE,dA,dAH,dO,dOO,cSHORT I,dE,dA,dAH,dO,dOO,cAY,cOW,cWU,cYEE,cH,cPEE,cBEE,cTEE,cDEE,cCHEE",
    "cJEE,cKAY,cGAY,cEF,cVEE,cETH,cTHEE,cES,cZEE,cESH,cZHEE,cER,cEL,cEM,cEN,cENG,cOI,cEW,SHAVIAN LETTER PEEP,bTOT",
    "bKICK,bFEE,bTHIGH,bSO,bSURE,bCHURCH,bYEA,bHUNG,bBIB,bDEAD,bGAG,bVOW,bTHEY,bZOO,bMEASURE,bJUDGE,bWOE,bHA-HA",
    "bLOLL,bMIME,bIF,bEGG,bASH,bADO,bON,bWOOL,bOUT,bAH,bROAR,bNUN,bEAT,bAGE,bICE,bUP,bOAK,bOOZE,bOIL,bAWE,bARE,bOR",
    "bAIR,bERR,bARRAY,bEAR,bIAN,bYEW,OSMANYA LETTER ALEF,bBA,bTA,bJA,bXA,bKHA,bDEEL,bRA,bSA,bSHIIN,bDHA,bCAYN,bGA",
    "bFA,bQAAF,bKAAF,bLAAN,bMIIN,bNUUN,bWAW,bHA,bYA,bA,bE,bI,bO,bU,bAA,bEE,bOO,,,aDIGIT ZERO,bONE,bTWO,bTHREE,bFOUR",
    "bFIVE,bSIX,bSEVEN,bEIGHT,bNINE"]),
  (0x104B0, ["OSAGE CAPITAL LETTER A,cAI,cAIN,cAH,cBRA,cCHA,cEHCHA,cE,cEIN,cHA,cHYA,cI,cKA,cEHKA,cKYA,cLA,cMA,cNA,cO",
    "cOIN,cPA,cEHPA,cSA,cSHA,cTA,cEHTA,cTSA,cEHTSA,cTSHA,cDHA,cU,cWA,cKHA,cGHA,cZA,cZHA"]),
  (0x104D8, ["OSAGE SMALL LETTER A,cAI,cAIN,cAH,cBRA,cCHA,cEHCHA,cE,cEIN,cHA,cHYA,cI,cKA,cEHKA,cKYA,cLA,cMA,cNA,cO",
    "cOIN,cPA,cEHPA,cSA,cSHA,cTA,cEHTA,cTSA,cEHTSA,cTSHA,cDHA,cU,cWA,cKHA,cGHA,cZA,cZHA"]),
  (0x10500, ["ELBASAN LETTER A,bBE,bCE,bCHE,bDE,bNDE,bDHE,bEI,bE,bFE,bGE,bGJE,bHE,bI,bJE,bKE,bLE,bLLE,bME,bNE,bNA",
    "bNJE,bO,bPE,bQE,bRE,bRRE,bSE,bSHE,bTE,bTHE,bU,bVE,bXE,bY,bZE,bZHE,bGHE,bGHAMMA,bKHE"]),
  (0x10530, ["CAUCASIAN ALBANIAN LETTER ALT,cBET,cGIM,cDAT,cEB,cZARL,cEYN,cZHIL,cTAS,cCHA,cYOWD,cZHA,cIRB,cSHA,cLAN",
    "cINYA,cXEYN,cDYAN,cCAR,cJHOX,cKAR,cLYIT,cHEYT,cQAY,cAOR,cCHOY,cCHI,cCYAY,cMAQ,cQAR,cNOWC,cDZYAY,cSHAK,cJAYN,cON",
    "cTYAY,cFAM,cDZAY,cCHAT,cPEN,cGHEYS,cRAT,cSEYK,cVEYZ,cTIWR,cSHOY,cIWN,cCYAW,cCAYN,cYAYD,cPIWR,cKIW"]),
  (0x1056F, ["CAUCASIAN ALBANIAN CITATION MARK,VITHKUQI CAPITAL LETTER A,cBBE,cBE,cCE,cCHE,cDE,cDHE,cEI,cE,cFE,cGA,",
    "cHA,cHHA,cI,cIJE,cJE,cKA,cLA,cLLA,cME,cNE,cNJE,cO,cPE,cQA,cRE,,cSE,cSHE,cTE,cTHE,cU,cVE,cXE,,cY,cZE,",
    "aSMALL LETTER A,cBBE,cBE,cCE,cCHE,cDE,cDHE,cEI,cE,cFE,cGA,,cHA,cHHA,cI,cIJE,cJE,cKA,cLA,cLLA,cME,cNE,cNJE,cO",
    "cPE,cQA,cRE,,cSE,cSHE,cTE,cTHE,cU,cVE,cXE,,cY,cZE"]),
  (0x10600, ["LINEAR A SIGN AB001,cAB002,cAB003,cAB004,cAB005,cAB006,cAB007,cAB008,cAB009,cAB010,cAB011,cAB013",
    "cAB016,cAB017,cAB020,cAB021,cAB021F,cAB021M,cAB022,cAB022F,cAB022M,cAB023,cAB023M,cAB024,cAB026,cAB027,cAB028",
    "cA028B,cAB029,cAB030,cAB031,cAB034,cAB037,cAB038,cAB039,cAB040,cAB041,cAB044,cAB045,cAB046,cAB047,cAB048,cAB049",
    "cAB050,cAB051,cAB053,cAB054,cAB055,cAB056,cAB057,cAB058,cAB059,cAB060,cAB061,cAB065,cAB066,cAB067,cAB069,cAB070",
    "cAB073,cAB074,cAB076,cAB077,cAB078,cAB079,cAB080,cAB081,cAB082,cAB085,cAB086,cAB087,cA100-102,cAB118,cAB120",
    "cA120B,cAB122,cAB123,cAB131A,cAB131B,cA131C,cAB164,cAB171,cAB180,cAB188,cAB191,cA301,cA302,cA303,cA304,cA305",
    "cA306,cA307,cA308,cA309A,cA309B,cA309C,cA310,cA311,cA312,cA313A,cA313B,cA313C,cA314,cA315,cA316,cA317,cA318",
    "cA319,cA320,cA321,cA322,cA323,cA324,cA325,cA326,cA327,cA328,cA329,cA330,cA331,cA332,cA333,cA334,cA335,cA336",
    "cA337,cA338,cA339,cA340,cA341,cA342,cA343,cA344,cA345,cA346,cA347,cA348,cA349,cA350,cA351,cA352,cA353,cA354",
    "cA355,cA356,cA357,cA358,cA359,cA360,cA361,cA362,cA363,cA364,cA365,cA366,cA367,cA368,cA369,cA370,cA371,cA400-VAS",
    "cA401-VAS,cA402-VAS,cA403-VAS,cA404-VAS,cA405-VAS,cA406-VAS,cA407-VAS,cA408-VAS,cA409-VAS,cA410-VAS,cA411-VAS",
    "cA412-VAS,cA413-VAS,cA414-VAS,cA415-VAS,cA416-VAS,cA417-VAS,cA418-VAS,cA501,cA502,cA503,cA504,cA505,cA506,cA508",
    "cA509,cA510,cA511,cA512,cA513,cA515,cA516,cA520,cA521,cA523,cA524,cA525,cA526,cA527,cA528,cA529,cA530,cA531",
    "cA532,cA534,cA535,cA536,cA537,cA538,cA539,cA540,cA541,cA542,cA545,cA547,cA548,cA549,cA550,cA551,cA552,cA553",
    "cA554,cA555,cA556,cA557,cA559,cA563,cA564,cA565,cA566,cA568,cA569,cA570,cA571,cA572,cA573,cA574,cA575,cA576",
    "cA577,cA578,cA579,cA580,cA581,cA582,cA583,cA584,cA585,cA586,cA587,cA588,cA589,cA591,cA592,cA594"]),
  (0x10700, ["LINEAR A SIGN A595,cA596,cA598,cA600,cA601,cA602,cA603,cA604,cA606,cA608,cA609,cA610,cA611,cA612,cA613",
    "cA614,cA615,cA616,cA617,cA618,cA619,cA620,cA621,cA622,cA623,cA624,cA626,cA627,cA628,cA629,cA634,cA637,cA638",
    "cA640,cA642,cA643,cA644,cA645,cA646,cA648,cA649,cA651,cA652,cA653,cA654,cA655,cA656,cA657,cA658,cA659,cA660",
    "cA661,cA662,cA663,cA664"]),
  (0x10740, ["LINEAR A SIGN A701 A,cA702 B,cA703 D,cA704 E,cA705 F,cA706 H,cA707 J,cA708 K,cA709 L,cA709-2 L2",
    "cA709-3 L3,cA709-4 L4,cA709-6 L6,cA710 W,cA711 X,cA712 Y,cA713 OMEGA,cA714 ABB,cA715 BB,cA717 DD,cA726 EYYY",
    "cA732 JE"]),
  (0x10760, ["LINEAR A SIGN A800,cA801,cA802,cA803,cA804,cA805,cA806,cA807"]),
  (0x10780, ["MODIFIER LETTER SMALL CAPITAL AA,bSUPERSCRIPT TRIANGULAR COLON,cHALFb,bSMALL AE,cCAPITAL B",
    "cB WITH HOOK,,cDZ DIGRAPH,eWITH RETROFLEX HOOK,fCURL,cDEZH DIGRAPH,cD WITH TAIL,eHOOK,fAND TAIL,cREVERSED E",
    "cCLOSED REVERSED OPENa,cFENG DIGRAPH,cRAMS HORN,cCAPITAL G,cG WITH HOOK,cCAPITALc,cH WITH STROKE,cCAPITAL H",
    "cHENG WITH HOOK,cDOTLESS J WITH STROKE ANDa,cLS DIGRAPH,cLZa,cL WITH BELT,cCAPITALc,cL WITH RETROFLEX HOOK ANDa",
    "cLEZH,dWITH RETROFLEX HOOK,cTURNED Y,eWITH BELT,cO WITH STROKE,cCAPITAL OE,cCLOSED OMEGA,cQ",
    "cTURNED R WITH LONG LEG,hAND RETROFLEX HOOK,cR WITH TAIL,eFISHHOOK,cCAPITAL R,cTC DIGRAPH WITH CURL,cTS DIGRAPH",
    "eWITH RETROFLEX HOOK,cTESH DIGRAPH,cT WITH RETROFLEX HOOK,cV WITH RIGHTa,,cCAPITAL Y,bGLOTTAL STOP WITH STROKE",
    "bREVERSEDd,bBILABIAL CLICK,bDENTALa,bLATERALa,bALVEOLARa,bRETROFLEX CLICK WITH RETROFLEX HOOK",
    "bSMALL S WITH CURL"]),
  (0x10800, ["CYPRIOT SYLLABLE A,bE,bI,bO,bU,bJA,,,bJO,,bKA,bKE,bKI,bKO,bKU,bLA,bLE,bLI,bLO,bLU,bMA,bME,bMI,bMO,bMU",
    "bNA,bNE,bNI,bNO,bNU,bPA,bPE,bPI,bPO,bPU,bRA,bRE,bRI,bRO,bRU,bSA,bSE,bSI,bSO,bSU,bTA,bTE,bTI,bTO,bTU,bWA,bWE,bWI",
    "bWO,,bXA,bXE,,,,bZA,,,bZO,IMPERIAL ARAMAIC LETTER ALEPH,cBETH,cGIMEL,cDALETH,cHE,cWAW,cZAYIN,cHETH,cTETH,cYODH",
    "cKAPH,cLAMEDH,cMEM,cNUN,cSAMEKH,cAYIN,cPE,cSADHE,cQOPH,cRESH,cSHIN,cTAW,,bSECTION SIGN,bNUMBER ONE,cTWO,cTHREE",
    "cTEN,cTWENTY,cONE HUNDRED,dTHOUSAND,cTENa,PALMYRENE LETTER ALEPH,bBETH,bGIMEL,bDALETH,bHE,bWAW,bZAYIN,bHETH",
    "bTETH,bYODH,bKAPH,bLAMEDH,bMEM,bFINAL NUN,ba,bSAMEKH,bAYIN,bPE,bSADHE,bQOPH,bRESH,bSHIN,bTAW",
    "aLEFT-POINTING FLEURON,aRIGHT-POINTINGa,aNUMBER ONE,bTWO,bTHREE,bFOUR,bFIVE,bTEN,bTWENTY",
    "NABATAEAN LETTER FINAL ALEPH,ba,bFINAL BETH,ba,bGIMEL,bDALETH,bFINAL HE,ba,bWAW,bZAYIN,bHETH,bTETH,bFINAL YODH",
    "ba,bFINAL KAPH,ba,bFINAL LAMEDH,ba,bFINAL MEM,ba,bFINAL NUN,ba,bSAMEKH,bAYIN,bPE,bSADHE,bQOPH,bRESH,bFINAL SHIN",
    "ba,bTAW"]),
  (0x108A7, ["NABATAEAN NUMBER ONE,bTWO,bTHREE,bFOUR,aCRUCIFORMb,aNUMBER FIVE,bTEN,bTWENTY,bONE HUNDRED"]),
  (0x108E0, ["HATRAN LETTER ALEPH,bBETH,bGIMEL,bDALETH-RESH,bHE,bWAW,bZAYN,bHETH,bTETH,bYODH,bKAPH,bLAMEDH,bMEM,bNUN",
    "bSAMEKH,bAYN,bPE,bSADHE,bQOPH,,bSHIN,bTAW"]),
  (0x108FB, ["HATRAN NUMBER ONE,bFIVE,bTEN,bTWENTY,bONE HUNDRED"]),
  (0x10900, ["PHOENICIAN LETTER ALF,bBET,bGAML,bDELT,bHE,bWAU,bZAI,bHET,bTET,bYOD,bKAF,bLAMD,bMEM,bNUN,bSEMK,bAIN",
    "bPE,bSADE,bQOF,bROSH,bSHIN,bTAU,aNUMBER ONE,bTEN,bTWENTY,bONE HUNDRED,bTWO,bTHREE,,,,aWORD SEPARATOR",
    "LYDIAN LETTER A,bB,bG,bD,bE,bV,bI,bY,bK,bL,bM,bN,bO,bR,bSS,bT,bU,bF,bQ,bS,bTT,bAN,bEN,bLY,bNN,bC"]),
  (0x1093F, ["LYDIAN TRIANGULAR MARK"]),
  (0x10980, ["MEROITIC HIEROGLYPHIC LETTER A,cE,cI,cO,cYA,cWA,cBA,cBA-2,cPA,cMA,cNA,cNA-2,cNE,cNE-2,cRA,cRA-2,cLA",
    "cKHA,cHHA,cSA,cSA-2,cSE,cKA,cQA,cTA,cTA-2,cTE,cTE-2,cTO,cDA,bSYMBOL VIDJ,cVIDJ-2,aCURSIVE LETTER A,cE,cI,cO,cYA",
    "cWA,cBA,cPA,cMA,cNA,cNE,cRA,cLA,cKHA,cHHA,cSA,cARCHAICa,cSE,cKA,cQA,cTA,cTE,cTO,cDA"]),
  (0x109BC, ["MEROITIC CURSIVE FRACTION ELEVEN TWELFTHS,cONE HALF,bLOGOGRAM RMT,cIMN,bNUMBER ONE,cTWO,cTHREE,cFOUR",
    "cFIVE,cSIX,cSEVEN,cEIGHT,cNINE,cTEN,cTWENTY,cTHIRTY,cFORTY,cFIFTY,cSIXTY,cSEVENTY,,,cONE HUNDRED,cTWOa,cTHREEa",
    "cFOURa,cFIVEa,cSIXa,cSEVENa,cEIGHTa,cNINEa,cONE THOUSAND,cTWOa,cTHREEa,cFOURa,cFIVEa,cSIXa,cSEVENa,cEIGHTa",
    "cNINEa,cTENa,cTWENTYa,cTHIRTYa,cFORTYa,cFIFTYa,cSIXTYa,cSEVENTYa,cEIGHTYa,cNINETYa,cONE HUNDREDa,cTWOb,cTHREEb",
    "cFOURb,cFIVEb,cSIXb,cSEVENb,cEIGHTb,cNINEb,bFRACTION ONE TWELFTH,cTWO TWELFTHS,cTHREEa,cFOURa,cFIVEa,cSIXa",
    "cSEVENa,cEIGHTa,cNINEa,cTENa"]),
  (0x10A00, ["KHAROSHTHI LETTER A,aVOWEL SIGN I,cU,cVOCALIC R,,cE,cO"]),
  (0x10A0C, ["KHAROSHTHI VOWEL LENGTH MARK,aSIGN DOUBLE RING BELOW,bANUSVARA,bVISARGA,aLETTER KA,bKHA,bGA,bGHA,,bCA",
    "bCHA,bJA,,bNYA,bTTA,bTTHA,bDDA,bDDHA,bNNA,bTA,bTHA,bDA,bDHA,bNA,bPA,bPHA,bBA,bBHA,bMA,bYA,bRA,bLA,bVA,bSHA,bSSA",
    "bSA,bZA,bHA,bKKA,bTTTHA,bTTTA,bVHA,,,aSIGN BAR ABOVE,bCAUDA,bDOT BELOW"]),
  (0x10A3F, ["KHAROSHTHI VIRAMA,aDIGIT ONE,bTWO,bTHREE,bFOUR,aNUMBER TEN,bTWENTY,bONE HUNDRED,cTHOUSAND",
    "aFRACTION ONE HALF"]),
  (0x10A50, ["KHAROSHTHI PUNCTUATION DOT,bSMALL CIRCLE,ba,bCRESCENT BAR,bMANGALAM,bLOTUS,bDANDA,bDOUBLEa,bLINES"]),
  (0x10A60, ["OLD SOUTH ARABIAN LETTER HE,dLAMEDH,dHETH,dMEM,dQOPH,dWAW,dSHIN,dRESH,dBETH,dTAW,dSAT,dKAPH,dNUN",
    "dKHETH,dSADHE,dSAMEKH,dFE,dALEF,dAYN,dDHADHE,dGIMEL,dDALETH,dGHAYN,dTETH,dZAYN,dDHALETH,dYODH,dTHAW,dTHETH",
    "cNUMBER ONE,dFIFTY,cNUMERIC INDICATOR,aNORTH ARABIAN LETTER HEH,dLAM,dHAH,dMEEM,dQAF,dWAW,dES-2,dREH,dBEH,dTEH",
    "dES-1,dKAF,dNOON,dKHAH,dSAD,dES-3,dFEH,dALEF,dAIN,dDAD,dGEEM,dDAL,dGHAIN,dTAH,dZAIN,dTHAL,dYEH,dTHEH,dZAH",
    "cNUMBER ONE,dTEN,dTWENTY"]),
  (0x10AC0, ["MANICHAEAN LETTER ALEPH,bBETH,bBHETH,bGIMEL,bGHIMEL,bDALETH,bHE,bWAW,aSIGN UD,aLETTER ZAYIN,bZHAYIN",
    "bJAYIN,bJHAYIN,bHETH,bTETH,bYODH,bKAPH,bXAPH,bKHAPH,bLAMEDH,bDHAMEDH,bTHAMEDH,bMEM,bNUN,bSAMEKH,bAYIN,bAAYIN",
    "bPE,bFE,bSADHE,bQOPH,bXOPH,bQHOPH,bRESH,bSHIN,bSSHIN,bTAW,aABBREVIATION MARK ABOVE,cBELOW"]),
  (0x10AEB, ["MANICHAEAN NUMBER ONE,bFIVE,bTEN,bTWENTY,bONE HUNDRED,aPUNCTUATION STAR,bFLEURON",
    "bDOUBLE DOT WITHIN DOT,bc,c,bTWO DOTS,bLINE FILLER"]),
  (0x10B00, ["AVESTAN LETTER A,bAA,bAO,bAAO,bAN,bAAN,bAE,bAEE,bE,bEE,bO,bOO,bI,bII,bU,bUU,bKE,bXE,bXYE,bXVE,bGE,bGGE",
    "bGHE,bCE,bJE,bTE,bTHE,bDE,bDHE,bTTE,bPE,bFE,bBE,bBHE,bNGE,bNGYE,bNGVE,bNE,bNYE,bNNE,bME,bHME,bYYE,bYE,bVE,bRE",
    "bLE,bSE,bZE,bSHE,bZHE,bSHYE,bSSHE,bHE,,,,aABBREVIATION MARK,TINY TWO DOTS OVER ONE DOT PUNCTUATION,SMALLf",
    "LARGEf,aONE DOT OVER TWO DOTSa,aTWO RINGS OVER ONE RINGa,aONE RING OVER TWO RINGSa",
    "INSCRIPTIONAL PARTHIAN LETTER ALEPH,cBETH,cGIMEL,cDALETH,cHE,cWAW,cZAYIN,cHETH,cTETH,cYODH,cKAPH,cLAMEDH,cMEM",
    "cNUN,cSAMEKH,cAYIN,cPE,cSADHE,cQOPH,cRESH,cSHIN,cTAW,,,bNUMBER ONE,cTWO,cTHREE,cFOUR,cTEN,cTWENTY,cONE HUNDRED",
    "dTHOUSAND,aPAHLAVI LETTER ALEPH,cBETH,cGIMEL,cDALETH,cHE,cWAW-AYIN-RESH,cZAYIN,cHETH,cTETH,cYODH,cKAPH,cLAMEDH",
    "cMEM-QOPH,cNUN,cSAMEKH,cPE,cSADHE,cSHIN,cTAW"]),
  (0x10B78, ["INSCRIPTIONAL PAHLAVI NUMBER ONE,cTWO,cTHREE,cFOUR,cTEN,cTWENTY,cONE HUNDRED,dTHOUSAND",
    "PSALTER PAHLAVI LETTER ALEPH,cBETH,cGIMEL,cDALETH,cHE,cWAW-AYIN-RESH,cZAYIN,cHETH,cYODH,cKAPH,cLAMEDH,cMEM-QOPH",
    "cNUN,cSAMEKH,cPE,cSADHE,cSHIN,cTAW"]),
  (0x10B99, ["PSALTER PAHLAVI SECTION MARK,bTURNEDb,bFOUR DOTS WITH CROSS,eDOT"]),
  (0x10BA9, ["PSALTER PAHLAVI NUMBER ONE,cTWO,cTHREE,cFOUR,cTEN,cTWENTY,cONE HUNDRED"]),
  (0x10C00, ["OLD TURKIC LETTER ORKHON A,cYENISEIa,dAE,cORKHON I,cYENISEIa,dE,cORKHON O,dOE,cYENISEIa,cORKHON AB",
    "cYENISEIa,cORKHON AEB,cYENISEIa,cORKHON AG,cYENISEIa,cORKHON AEG,cYENISEIa,cORKHON AD,cYENISEIa,cORKHON AED,dEZ",
    "cYENISEIa,cORKHON AY,cYENISEIa,cORKHON AEY,cYENISEIa,cORKHON AEK,cYENISEIa,cORKHON OEK,cYENISEIa,cORKHON AL",
    "cYENISEIa,cORKHON AEL,dELT,dEM,dAN,dAEN,cYENISEIa,cORKHON ENT,cYENISEIa,cORKHON ENC,cYENISEIa,cORKHON ENY",
    "cYENISEIa,dANG,cORKHON ENG,cYENISEI AENG,cORKHON EP,dOP,dIC,dEC,cYENISEIa,cORKHON AQ,cYENISEIa,cORKHON IQ",
    "cYENISEIa,cORKHON OQ,cYENISEIa,cORKHON AR,cYENISEIa,cORKHON AER,dAS,dAES,dASH,cYENISEIa,cORKHON ESH,cYENISEIa",
    "cORKHON AT,cYENISEIa,cORKHON AET,cYENISEIa,cORKHON OT,dBASH"]),
  (0x10C80, ["OLD HUNGARIAN CAPITAL LETTER A,dAA,dEB,dAMB,dEC,dENC,dECS,dED,dAND,dE,dCLOSEa,dEE,dEF,dEG,dEGY,dEH,dI",
    "dII,dEJ,dEK,dAK,dUNK,dEL,dELY,dEM,dEN,dENY,dO,dOO,dNIKOLSBURG OE,dRUDIMENTAa,dOEE,dEP,dEMP,dER,dSHORTa,dES,dESZ",
    "dET,dENT,dETY,dECH,dU,dUU,dNIKOLSBURG UE,dRUDIMENTAa,dEV,dEZ,dEZS,dENT-SHAPED SIGN,dUS"]),
  (0x10CC0, ["OLD HUNGARIAN SMALL LETTER A,dAA,dEB,dAMB,dEC,dENC,dECS,dED,dAND,dE,dCLOSEa,dEE,dEF,dEG,dEGY,dEH,dI",
    "dII,dEJ,dEK,dAK,dUNK,dEL,dELY,dEM,dEN,dENY,dO,dOO,dNIKOLSBURG OE,dRUDIMENTAa,dOEE,dEP,dEMP,dER,dSHORTa,dES,dESZ",
    "dET,dENT,dETY,dECH,dU,dUU,dNIKOLSBURG UE,dRUDIMENTAa,dEV,dEZ,dEZS,dENT-SHAPED SIGN,dUS"]),
  (0x10CFA, ["OLD HUNGARIAN NUMBER ONE,cFIVE,cTEN,cFIFTY,cONE HUNDRED,dTHOUSAND"]),
  (0x10D00, ["HANIFI ROHINGYA LETTER A,cBA,cPA,cTA,cTTA,cJA,cCA,cHA,cKHA,cFA,cDA,cDDA,cRA,cRRA,cZA,cSA,cSHA,cKA,cGA",
    "cLA,cMA,cNA,cWA,cKINNAa,cYA,cKINNAa,cNGA,cNYA,cVA,bVOWEL A,cI,cU,cE,cO,bMARK SAKIN,cNA KHONNA,bSIGN HARBAHAY",
    "cTAHALA,cTANA,cTASSI"]),
  (0x10D30, ["HANIFI ROHINGYA DIGIT ZERO,cONE,cTWO,cTHREE,cFOUR,cFIVE,cSIX,cSEVEN,cEIGHT,cNINE"]),
  (0x10E60, ["RUMI DIGIT ONE,bTWO,bTHREE,bFOUR,bFIVE,bSIX,bSEVEN,bEIGHT,bNINE,aNUMBER TEN,bTWENTY,bTHIRTY,bFORTY",
    "bFIFTY,bSIXTY,bSEVENTY,bEIGHTY,bNINETY,bONE HUNDRED,bTWOa,bTHREEa,bFOURa,bFIVEa,bSIXa,bSEVENa,bEIGHTa,bNINEa",
    "aFRACTION ONE HALF,cQUARTER,cTHIRD,bTWO THIRDS,,YEZIDI LETTER ELIF,bBE,bPE,bPHE,bTHE,bSE,bCIM,bCHIM,bCHHIM,bHHA",
    "bXA,bDAL,bZAL,bRA,bRHA,bZA,bJA,bSIN,bSHIN,bSAD,bDAD,bTA,bZE,bEYN,bXHEYN,bFA,bVA,cALTERNATE FORM,bQAF,bKAF,bKHAF",
    "bGAF,bLAM,bMIM,bNUN,bUM,bWAW,bOW,bEW,bHAY,bYOT,bET,,aCOMBINING HAMZA MARK,bMADDAa,aHYPHENATIONa,,",
    "aLETTER LAM WITH DOT ABOVE,bYOT WITH CIRCUMFLEXa"]),
  (0x10F00, ["OLD SOGDIAN LETTER ALEPH,cFINALa,cBETH,cFINALa,cGIMEL,cHE,cFINALa,cWAW,cZAYIN,cHETH,cYODH,cKAPH",
    "cLAMEDH,cMEM,cNUN,cFINALa,eWITH VERTICAL TAIL,cSAMEKH,cAYIN,cALTERNATEa,cPE,cSADHE,cFINALa,eWITH VERTICAL TAIL",
    "cRESH-AYIN-DALETH,cSHIN,cTAW,cFINALa,eWITH VERTICAL TAIL,bNUMBER ONE,cTWO,cTHREE,cFOUR,cFIVE,cTEN,cTWENTY",
    "cTHIRTY,cONE HUNDRED,bFRACTION ONE HALF,bLIGATURE AYIN-DALETH"]),
  (0x10F30, ["SOGDIAN LETTER ALEPH,bBETH,bGIMEL,bHE,bWAW,bZAYIN,bHETH,bYODH,bKAPH,bLAMEDH,bMEM,bNUN,bSAMEKH,bAYIN",
    "bPE,bSADHE,bRESH-AYIN,bSHIN,bTAW,bFETH,bLESH,aINDEPENDENT SHIN,aCOMBINING DOT BELOW,bTWO DOTSa,bDOT ABOVE",
    "bTWO DOTSa,bCURVEa,cBELOW,bHOOK ABOVE,cBELOW,bLONGb,bRESHa,bSTROKEa,aNUMBER ONE,bTEN,bTWENTY,bONE HUNDRED",
    "aPUNCTUATION TWO VERTICAL BARS,eWITH DOTS,bCIRCLE WITH DOT,bTWO CIRCLES WITH DOTS,bHALF CIRCLE WITH DOT"]),
  (0x10F70, ["OLD UYGHUR LETTER ALEPH,cBETH,cGIMEL-HETH,cWAW,cZAYIN,cFINAL HETH,cYODH,cKAPH,cLAMEDH,cMEM,cNUN",
    "cSAMEKH,cPE,cSADHE,cRESH,cSHIN,cTAW,cLESH,bCOMBINING DOT ABOVE,dBELOW,cTWO DOTS ABOVE,eBELOW,bPUNCTUATION BAR",
    "cTWO BARS,dDOTS,cFOURa"]),
  (0x10FB0, ["CHORASMIAN LETTER ALEPH,bSMALLa,bBETH,bGIMEL,bDALETH,bHE,bWAW,bCURLEDa,bZAYIN,bHETH,bYODH,bKAPH",
    "bLAMEDH,bMEM,bNUN,bSAMEKH,bAYIN,bPE,bRESH,bSHIN,bTAW,aNUMBER ONE,bTWO,bTHREE,bFOUR,bTEN,bTWENTY,bONE HUNDRED"]),
  (0x10FE0, ["ELYMAIC LETTER ALEPH,bBETH,bGIMEL,bDALETH,bHE,bWAW,bZAYIN,bHETH,bTETH,bYODH,bKAPH,bLAMEDH,bMEM,bNUN",
    "bSAMEKH,bAYIN,bPE,bSADHE,bQOPH,bRESH,bSHIN,bTAW,aLIGATURE ZAYIN-YODH"]),
  (0x11000, ["BRAHMI SIGN CANDRABINDU,bANUSVARA,bVISARGA,bJIHVAMULIYA,bUPADHMANIYA,aLETTER A,bAA,bI,bII,bU,bUU",
    "bVOCALIC R,cRR,cL,cLL,bE,bAI,bO,bAU,bKA,bKHA,bGA,bGHA,bNGA,bCA,bCHA,bJA,bJHA,bNYA,bTTA,bTTHA,bDDA,bDDHA,bNNA",
    "bTA,bTHA,bDA,bDHA,bNA,bPA,bPHA,bBA,bBHA,bMA,bYA,bRA,bLA,bVA,bSHA,bSSA,bSA,bHA,bLLA,bOLD TAMIL LLLA,dRRA,dNNNA",
    "aVOWEL SIGN AA,cBHATTIPROLUa,cI,cII,cU,cUU,cVOCALIC R,dRR,dL,dLL,cE,cAI,cO,cAU,aVIRAMA,aDANDA,aDOUBLEa",
    "aPUNCTUATION DOT,bDOUBLEa,bLINE,bCRESCENT BAR,bLOTUS"]),
  (0x11052, ["BRAHMI NUMBER ONE,bTWO,bTHREE,bFOUR,bFIVE,bSIX,bSEVEN,bEIGHT,bNINE,bTEN,bTWENTY,bTHIRTY,bFORTY,bFIFTY",
    "bSIXTY,bSEVENTY,bEIGHTY,bNINETY,bONE HUNDRED,cTHOUSAND,aDIGIT ZERO,bONE,bTWO,bTHREE,bFOUR,bFIVE,bSIX,bSEVEN",
    "bEIGHT,bNINE,aSIGN OLD TAMIL VIRAMA,aLETTER OLD TAMIL SHORT E,eO,aVOWEL SIGN OLD TAMIL SHORT E,fO",
    "aLETTER OLD TAMIL LLA"]),
  (0x1107F, ["BRAHMI NUMBER JOINER,KAITHI SIGN CANDRABINDU,bANUSVARA,bVISARGA,aLETTER A,bAA,bI,bII,bU,bUU,bE,bAI,bO",
    "bAU,bKA,bKHA,bGA,bGHA,bNGA,bCA,bCHA,bJA,bJHA,bNYA,bTTA,bTTHA,bDDA,bDDDHA,bDDHA,bRHA,bNNA,bTA,bTHA,bDA,bDHA,bNA",
    "bPA,bPHA,bBA,bBHA,bMA,bYA,bRA,bLA,bVA,bSHA,bSSA,bSA,bHA,aVOWEL SIGN AA,cI,cII,cU,cUU,cE,cAI,cO,cAU,aSIGN VIRAMA",
    "bNUKTA,aABBREVIATION SIGN,aENUMERATIONa,aNUMBERa,aSECTION MARK,aDOUBLEb,aDANDA,aDOUBLEa,aVOWEL SIGN VOCALIC R"]),
  (0x110CD, ["KAITHI NUMBER SIGN ABOVE,,,SORA SOMPENG LETTER SAH,cTAH,cBAH,cCAH,cDAH,cGAH,cMAH,cNGAH,cLAH,cNAH,cVAH",
    "cPAH,cYAH,cRAH,cHAH,cKAH,cJAH,cNYAH,cAH,cEEH,cIH,cUH,cOH,cEH,cMAE"]),
  (0x110F0, ["SORA SOMPENG DIGIT ZERO,cONE,cTWO,cTHREE,cFOUR,cFIVE,cSIX,cSEVEN,cEIGHT,cNINE"]),
  (0x11100, ["CHAKMA SIGN CANDRABINDU,bANUSVARA,bVISARGA,aLETTER AA,bI,bU,bE,bKAA,bKHAA,bGAA,bGHAA,bNGAA,bCAA,bCHAA",
    "bJAA,bJHAA,bNYAA,bTTAA,bTTHAA,bDDAA,bDDHAA,bNNAA,bTAA,bTHAA,bDAA,bDHAA,bNAA,bPAA,bPHAA,bBAA,bBHAA,bMAA,bYYAA",
    "bYAA,bRAA,bLAA,bWAA,bSAA,bHAA,aVOWEL SIGN A,cI,cII,cU,cUU,cE,cAI,cO,cAU,cOI,aO MARK,aAUa,aVIRAMA,aMAAYYAA,",
    "aDIGIT ZERO,bONE,bTWO,bTHREE,bFOUR,bFIVE,bSIX,bSEVEN,bEIGHT,bNINE,aSECTION MARK,aDANDA,aDOUBLEa,aQUESTION MARK",
    "aLETTER LHAA,aVOWEL SIGN AA,cEI,aLETTER VAA"]),
  (0x11150, ["MAHAJANI LETTER A,bI,bU,bE,bO,bKA,bKHA,bGA,bGHA,bCA,bCHA,bJA,bJHA,bNYA,bTTA,bTTHA,bDDA,bDDHA,bNNA,bTA",
    "bTHA,bDA,bDHA,bNA,bPA,bPHA,bBA,bBHA,bMA,bRA,bLA,bVA,bSA,bHA,bRRA,aSIGN NUKTA,aABBREVIATION SIGN,aSECTION MARK",
    "aLIGATURE SHRI"]),
  (0x11180, ["SHARADA SIGN CANDRABINDU,bANUSVARA,bVISARGA,aLETTER A,bAA,bI,bII,bU,bUU,bVOCALIC R,cRR,cL,cLL,bE,bAI",
    "bO,bAU,bKA,bKHA,bGA,bGHA,bNGA,bCA,bCHA,bJA,bJHA,bNYA,bTTA,bTTHA,bDDA,bDDHA,bNNA,bTA,bTHA,bDA,bDHA,bNA,bPA,bPHA",
    "bBA,bBHA,bMA,bYA,bRA,bLA,bLLA,bVA,bSHA,bSSA,bSA,bHA,aVOWEL SIGN AA,cI,cII,cU,cUU,cVOCALIC R,dRR,dL,dLL,cE,cAI",
    "cO,cAU,aSIGN VIRAMA,bAVAGRAHA,bJIHVAMULIYA,bUPADHMANIYA,aOM,aDANDA,aDOUBLEa,aABBREVIATION SIGN,aSEPARATOR",
    "aSANDHI MARK,aSIGN NUKTA,aVOWEL MODIFIER MARK,aEXTRA SHORT VOWELa,aSUTRAa,aVOWEL SIGN PRISHTHAMATRA E",
    "aSIGN INVERTED CANDRABINDU,aDIGIT ZERO,bONE,bTWO,bTHREE,bFOUR,bFIVE,bSIX,bSEVEN,bEIGHT,bNINE,aEKAM",
    "aSIGN SIDDHAM,aHEADSTROKE,aCONTINUATION SIGN,aSECTION MARK-1,bMARK-2,,SINHALA ARCHAIC DIGIT ONE,cTWO,cTHREE",
    "cFOUR,cFIVE,cSIX,cSEVEN,cEIGHT,cNINE,bNUMBER TEN,cTWENTY,cTHIRTY,cFORTY,cFIFTY,cSIXTY,cSEVENTY,cEIGHTY,cNINETY",
    "cONE HUNDRED,dTHOUSAND"]),
  (0x11200, ["KHOJKI LETTER A,bAA,bI,bU,bE,bAI,bO,bAU,bKA,bKHA,bGA,bGGA,bGHA,bNGA,bCA,bCHA,bJA,bJJA,,bNYA,bTTA,bTTHA",
    "bDDA,bDDHA,bNNA,bTA,bTHA,bDA,bDDDA,bDHA,bNA,bPA,bPHA,bBA,bBBA,bBHA,bMA,bYA,bRA,bLA,bVA,bSA,bHA,bLLA",
    "aVOWEL SIGN AA,cI,cII,cU,cE,cAI,cO,cAU,aSIGN ANUSVARA,bVIRAMA,bNUKTA,bSHADDA,aDANDA,aDOUBLEa,aWORD SEPARATOR",
    "aSECTION MARK,aDOUBLEb,aABBREVIATION SIGN,aSIGN SUKUN"]),
  (0x11280, ["MULTANI LETTER A,bI,bU,bE,bKA,bKHA,bGA,,bGHA,,bCA,bCHA,bJA,bJJA,,bNYA,bTTA,bTTHA,bDDA,bDDDA,bDDHA,bNNA",
    "bTA,bTHA,bDA,bDHA,bNA,bPA,bPHA,bBA,,bBHA,bMA,bYA,bRA,bLA,bVA,bSA,bHA,bRRA,bRHA,aSECTION MARK"]),
  (0x112B0, ["KHUDAWADI LETTER A,bAA,bI,bII,bU,bUU,bE,bAI,bO,bAU,bKA,bKHA,bGA,bGGA,bGHA,bNGA,bCA,bCHA,bJA,bJJA,bJHA",
    "bNYA,bTTA,bTTHA,bDDA,bDDDA,bRRA,bDDHA,bNNA,bTA,bTHA,bDA,bDHA,bNA,bPA,bPHA,bBA,bBBA,bBHA,bMA,bYA,bRA,bLA,bVA",
    "bSHA,bSA,bHA,aSIGN ANUSVARA,aVOWEL SIGN AA,cI,cII,cU,cUU,cE,cAI,cO,cAU,aSIGN NUKTA,bVIRAMA"]),
  (0x112F0, ["KHUDAWADI DIGIT ZERO,bONE,bTWO,bTHREE,bFOUR,bFIVE,bSIX,bSEVEN,bEIGHT,bNINE"]),
  (0x11300, ["GRANTHA SIGN COMBINING ANUSVARA ABOVE,bCANDRABINDU,bANUSVARA,bVISARGA,,aLETTER A,bAA,bI,bII,bU,bUU",
    "bVOCALIC R,cL,,,bEE,bAI,,,bOO,bAU,bKA,bKHA,bGA,bGHA,bNGA,bCA,bCHA,bJA,bJHA,bNYA,bTTA,bTTHA,bDDA,bDDHA,bNNA,bTA",
    "bTHA,bDA,bDHA,bNA,,bPA,bPHA,bBA,bBHA,bMA,bYA,bRA,,bLA,bLLA,,bVA,bSHA,bSSA,bSA,bHA,,COMBINING BINDU BELOW",
    "GRANTHA SIGN NUKTA,bAVAGRAHA,aVOWEL SIGN AA,cI,cII,cU,cUU,cVOCALIC R,dRR,,,cEE,cAI,,,cOO,cAU,aSIGN VIRAMA,,,aOM"]),
  (0x11357, ["GRANTHA AU LENGTH MARK"]),
  (0x1135D, ["GRANTHA SIGN PLUTA,aLETTER VEDIC ANUSVARA,cDOUBLEa,bVOCALIC RR,cLL,aVOWEL SIGN VOCALIC L,dLL,,",
    "COMBINING GRANTHA DIGIT ZERO,cONE,cTWO,cTHREE,cFOUR,cFIVE,cSIX,,,,bLETTER A,cKA,cNA,cVI,cPA"]),
  (0x11400, ["NEWA LETTER A,bAA,bI,bII,bU,bUU,bVOCALIC R,cRR,cL,cLL,bE,bAI,bO,bAU,bKA,bKHA,bGA,bGHA,bNGA,bNGHA,bCA",
    "bCHA,bJA,bJHA,bNYA,bNYHA,bTTA,bTTHA,bDDA,bDDHA,bNNA,bTA,bTHA,bDA,bDHA,bNA,bNHA,bPA,bPHA,bBA,bBHA,bMA,bMHA,bYA",
    "bRA,bRHA,bLA,bLHA,bWA,bSHA,bSSA,bSA,bHA,aVOWEL SIGN AA,cI,cII,cU,cUU,cVOCALIC R,dRR,dL,dLL,cE,cAI,cO,cAU",
    "aSIGN VIRAMA,bCANDRABINDU,bANUSVARA,bVISARGA,bNUKTA,bAVAGRAHA,bFINAL ANUSVARA,aOM,aSIDDHI,aDANDA,aDOUBLEa",
    "aCOMMA,aGAP FILLER,aABBREVIATION SIGN,aDIGIT ZERO,bONE,bTWO,bTHREE,bFOUR,bFIVE,bSIX,bSEVEN,bEIGHT,bNINE",
    "aDOUBLE COMMA,aPLACEHOLDER MARK,,aINSERTION SIGN,aSANDHI MARK,aLETTER VEDIC ANUSVARA,aSIGN JIHVAMULIYA",
    "bUPADHMANIYA"]),
  (0x11480, ["TIRHUTA ANJI,aLETTER A,bAA,bI,bII,bU,bUU,bVOCALIC R,cRR,cL,cLL,bE,bAI,bO,bAU,bKA,bKHA,bGA,bGHA,bNGA",
    "bCA,bCHA,bJA,bJHA,bNYA,bTTA,bTTHA,bDDA,bDDHA,bNNA,bTA,bTHA,bDA,bDHA,bNA,bPA,bPHA,bBA,bBHA,bMA,bYA,bRA,bLA,bVA",
    "bSHA,bSSA,bSA,bHA,aVOWEL SIGN AA,cI,cII,cU,cUU,cVOCALIC R,dRR,dL,dLL,cE,cSHORTa,cAI,cO,cSHORTa,cAU",
    "aSIGN CANDRABINDU,bANUSVARA,bVISARGA,bVIRAMA,bNUKTA,bAVAGRAHA,aGVANG,aABBREVIATION SIGN,aOM"]),
  (0x114D0, ["TIRHUTA DIGIT ZERO,bONE,bTWO,bTHREE,bFOUR,bFIVE,bSIX,bSEVEN,bEIGHT,bNINE"]),
  (0x11580, ["SIDDHAM LETTER A,bAA,bI,bII,bU,bUU,bVOCALIC R,cRR,cL,cLL,bE,bAI,bO,bAU,bKA,bKHA,bGA,bGHA,bNGA,bCA,bCHA",
    "bJA,bJHA,bNYA,bTTA,bTTHA,bDDA,bDDHA,bNNA,bTA,bTHA,bDA,bDHA,bNA,bPA,bPHA,bBA,bBHA,bMA,bYA,bRA,bLA,bVA,bSHA,bSSA",
    "bSA,bHA,aVOWEL SIGN AA,cI,cII,cU,cUU,cVOCALIC R,dRR,,,cE,cAI,cO,cAU,aSIGN CANDRABINDU,bANUSVARA,bVISARGA",
    "bVIRAMA,bNUKTA,bSIDDHAM,aDANDA,aDOUBLEa,aSEPARATOR DOT,bBAR,aREPETITION MARK-1,bMARK-2,bMARK-3",
    "aEND OF TEXT MARK,aSECTION MARK WITH TRIDENT AND U-SHAPED ORNAMENTS,fDOTTED CRESCENTS,dRAYSc,gDOUBLEa,gTRIPLEa",
    "cDOUBLE RING,eWITH RAYS,cWITH DOUBLE CRESCENTS,dTRIPLEa,dQUADRUPLEa,dSEPTUPLEa,dCIRCLES AND RAYS",
    "fTWO ENCLOSURES,fFOURa,aLETTER THREE-CIRCLE ALTERNATE I,bTWO-CIRCLEb,dII,bALTERNATE U,aVOWEL SIGNb,dUU"]),
  (0x11600, ["MODI LETTER A,bAA,bI,bII,bU,bUU,bVOCALIC R,cRR,cL,cLL,bE,bAI,bO,bAU,bKA,bKHA,bGA,bGHA,bNGA,bCA,bCHA",
    "bJA,bJHA,bNYA,bTTA,bTTHA,bDDA,bDDHA,bNNA,bTA,bTHA,bDA,bDHA,bNA,bPA,bPHA,bBA,bBHA,bMA,bYA,bRA,bLA,bVA,bSHA,bSSA",
    "bSA,bHA,bLLA,aVOWEL SIGN AA,cI,cII,cU,cUU,cVOCALIC R,dRR,dL,dLL,cE,cAI,cO,cAU,aSIGN ANUSVARA,bVISARGA,bVIRAMA",
    "bARDHACANDRA,aDANDA,aDOUBLEa,aABBREVIATION SIGN,aSIGN HUVA"]),
  (0x11650, ["MODI DIGIT ZERO,bONE,bTWO,bTHREE,bFOUR,bFIVE,bSIX,bSEVEN,bEIGHT,bNINE"]),
  (0x11660, ["MONGOLIAN BIRGA WITH ORNAMENT,aROTATED BIRGA,aDOUBLE BIRGA WITH ORNAMENT,aTRIPLEc,aBIRGA WITH DOUBLEa",
    "aROTATED BIRGA WITHa,dDOUBLEa,aINVERTED BIRGA,cWITH DOUBLE ORNAMENT,aSWIRL BIRGA,cWITH ORNAMENT,dDOUBLEa",
    "aTURNEDe"]),
  (0x11680, ["TAKRI LETTER A,bAA,bI,bII,bU,bUU,bE,bAI,bO,bAU,bKA,bKHA,bGA,bGHA,bNGA,bCA,bCHA,bJA,bJHA,bNYA,bTTA",
    "bTTHA,bDDA,bDDHA,bNNA,bTA,bTHA,bDA,bDHA,bNA,bPA,bPHA,bBA,bBHA,bMA,bYA,bRA,bLA,bVA,bSHA,bSA,bHA,bRRA",
    "aSIGN ANUSVARA,bVISARGA,aVOWEL SIGN AA,cI,cII,cU,cUU,cE,cAI,cO,cAU,aSIGN VIRAMA,bNUKTA,aLETTER ARCHAIC KHA",
    "aABBREVIATION SIGN"]),
  (0x116C0, ["TAKRI DIGIT ZERO,bONE,bTWO,bTHREE,bFOUR,bFIVE,bSIX,bSEVEN,bEIGHT,bNINE"]),
  (0x11700, ["AHOM LETTER KA,bKHA,bNGA,bNA,bTA,bALTERNATEa,bPA,bPHA,bBA,bMA,bJA,bCHA,bTHA,bRA,bLA,bSA,bNYA,bHA,bA",
    "bDA,bDHA,bGA,bALTERNATEa,bGHA,bBHA,bJHA,bALTERNATE BA,,,aCONSONANT SIGN MEDIAL LA,dRA,dLIGATINGa,aVOWEL SIGN A",
    "cAA,cI,cII,cU,cUU,cE,cAW,cO,cAI,cAM,aSIGN KILLER"]),
  (0x11730, ["AHOM DIGIT ZERO,bONE,bTWO,bTHREE,bFOUR,bFIVE,bSIX,bSEVEN,bEIGHT,bNINE,aNUMBER TEN,bTWENTY",
    "aSIGN SMALL SECTION,ba,bRULAI,aSYMBOL VI,aLETTER CA,bTTA,bTTHA,bDDA,bDDHA,bNNA,bLLA"]),
  (0x11800, ["DOGRA LETTER A,bAA,bI,bII,bU,bUU,bE,bAI,bO,bAU,bKA,bKHA,bGA,bGHA,bNGA,bCA,bCHA,bJA,bJHA,bNYA,bTTA",
    "bTTHA,bDDA,bDDHA,bNNA,bTA,bTHA,bDA,bDHA,bNA,bPA,bPHA,bBA,bBHA,bMA,bYA,bRA,bLA,bVA,bSHA,bSSA,bSA,bHA,bRRA",
    "aVOWEL SIGN AA,cI,cII,cU,cUU,cVOCALIC R,dRR,cE,cAI,cO,cAU,aSIGN ANUSVARA,bVISARGA,bVIRAMA,bNUKTA",
    "aABBREVIATION SIGN"]),
  (0x118A0, ["WARANG CITI CAPITAL LETTER NGAA,dA,dWI,dYU,dYA,dYO,dII,dUU,dE,dO,dANG,dGA,dKO,dENY,dYUJ,dUC,dENN,dODD",
    "dTTE,dNUNG,dDA,dAT,dAM,dBU,dPU,dHIYO,dHOLO,dHORR,dHAR,dSSUU,dSII,dVIYO,bSMALL LETTER NGAA,dA,dWI,dYU,dYA,dYO",
    "dII,dUU,dE,dO,dANG,dGA,dKO,dENY,dYUJ,dUC,dENN,dODD,dTTE,dNUNG,dDA,dAT,dAM,dBU,dPU,dHIYO,dHOLO,dHORR,dHAR,dSSUU",
    "dSII,dVIYO,bDIGIT ZERO,cONE,cTWO,cTHREE,cFOUR,cFIVE,cSIX,cSEVEN,cEIGHT,cNINE,bNUMBER TEN,cTWENTY,cTHIRTY,cFORTY",
    "cFIFTY,cSIXTY,cSEVENTY,cEIGHTY,cNINETY"]),
  (0x118FF, ["WARANG CITI OM"]),
  (0x11900, ["DIVES AKURU LETTER A,cAA,cI,cII,cU,cUU,cE,,,cO,,,cKA,cKHA,cGA,cGHA,cNGA,cCA,cCHA,cJA,,cNYA,cTTA,,cDDA",
    "cDDHA,cNNA,cTA,cTHA,cDA,cDHA,cNA,cPA,cPHA,cBA,cBHA,cMA,cYA,cYYA,cRA,cLA,cVA,cSHA,cSSA,cSA,cHA,cLLA,cZA",
    "bVOWEL SIGN AA,dI,dII,dU,dUU,dE,,dAI,dO,,,bSIGN ANUSVARA,cCANDRABINDU,cHALANTA,bVIRAMA,bPREFIXED NASAL SIGN",
    "bMEDIAL YA,bINITIAL RA,bMEDIALa,bSIGN NUKTA,bDOUBLE DANDA,bGAP FILLER,bEND OF TEXT MARK"]),
  (0x11950, ["DIVES AKURU DIGIT ZERO,cONE,cTWO,cTHREE,cFOUR,cFIVE,cSIX,cSEVEN,cEIGHT,cNINE"]),
  (0x119A0, ["NANDINAGARI LETTER A,bAA,bI,bII,bU,bUU,bVOCALIC R,cRR,,,bE,bAI,bO,bAU,bKA,bKHA,bGA,bGHA,bNGA,bCA,bCHA",
    "bJA,bJHA,bNYA,bTTA,bTTHA,bDDA,bDDHA,bNNA,bTA,bTHA,bDA,bDHA,bNA,bPA,bPHA,bBA,bBHA,bMA,bYA,bRA,bLA,bVA,bSHA,bSSA",
    "bSA,bHA,bLLA,bRRA,aVOWEL SIGN AA,cI,cII,cU,cUU,cVOCALIC R,dRR,,,cE,cAI,cO,cAU,aSIGN ANUSVARA,bVISARGA,bVIRAMA",
    "bAVAGRAHA,bSIDDHAM,aHEADSTROKE,aVOWEL SIGN PRISHTHAMATRA E"]),
  (0x11A00, ["ZANABAZAR SQUARE LETTER A,bVOWEL SIGN I,dUE,dU,dE,dOE,dO,dAI,dAU,dREVERSED I,cLENGTH MARK,bLETTER KA",
    "cKHA,cGA,cGHA,cNGA,cCA,cCHA,cJA,cNYA,cTTA,cTTHA,cDDA,cDDHA,cNNA,cTA,cTHA,cDA,cDHA,cNA,cPA,cPHA,cBA,cBHA,cMA",
    "cTSA,cTSHA,cDZA,cDZHA,cZHA,cZA,c-A,cYA,cRA,cLA,cVA,cSHA,cSSA,cSA,cHA,cKSSA,bFINAL CONSONANT MARK,bSIGN VIRAMA",
    "cCANDRABINDU,dWITH ORNAMENT,cCANDRAb,cANUSVARA,cVISARGA,bCLUSTER-INITIAL LETTER RA,bCLUSTER-FINAL LETTER YA,dRA",
    "dLA,dVA,bINITIAL HEAD MARK,bCLOSINGb,bMARK TSHEG,cSHAD,cDOUBLEa,cLONG TSHEG,bINITIAL DOUBLE-LINED HEAD MARK",
    "bCLOSINGc,bSUBJOINER"]),
  (0x11A50, ["SOYOMBO LETTER A,aVOWEL SIGN I,cUE,cU,cE,cO,cOE,cAI,cAU,cVOCALIC R,dL,bLENGTH MARK,aLETTER KA,bKHA,bGA",
    "bGHA,bNGA,bCA,bCHA,bJA,bJHA,bNYA,bTTA,bTTHA,bDDA,bDDHA,bNNA,bTA,bTHA,bDA,bDHA,bNA,bPA,bPHA,bBA,bBHA,bMA,bTSA",
    "bTSHA,bDZA,bZHA,bZA,b-A,bYA,bRA,bLA,bVA,bSHA,bSSA,bSA,bHA,bKSSA,aSIGN JIHVAMULIYA,bUPADHMANIYA",
    "aCLUSTER-INITIAL LETTER RA,cLA,cSHA,cSA,aFINAL CONSONANT SIGN G,dK,dNG,dD,dN,dB,dM,dR,dL,dSH,dS,d-A",
    "aSIGN ANUSVARA,bVISARGA,aGEMINATION MARK,aSUBJOINER,aMARK TSHEG,bSHAD,bDOUBLEa,bPLUTA",
    "aHEAD MARK WITH MOON AND SUN AND TRIPLE FLAME,ha,g,aTERMINAL MARK-1,bMARK-2"]),
  (0x11AB0, ["CANADIAN SYLLABICS NATTILIK HI,cHII,cHO,cHOO,cHA,cHAA,cSHRI,cSHRII,cSHRO,cSHROO,cSHRA,cSHRAA,bSPE,bSPI",
    "bSPO,bSPA,PAU CIN HAU LETTER PA,dKA,dLA,dMA,dDA,dZA,dVA,dNGA,dHA,dGA,dKHA,dSA,dBA,dCA,dTA,dTHA,dNA,dPHA,dRA,dFA",
    "dCHA,dA,dE,dI,dO,dU,dUA,dIA,dFINAL P,eK,eT,eM,eN,eL,eW,eNG,eY,cRISING TONE LONG,e,cSANDHI GLOTTAL STOP",
    "cRISING TONE LONG FINAL,ea,cSANDHI GLOTTAL STOPa,dTONE LONG,e,eLONG FINAL,ea,cMID-LEVEL TONE",
    "cGLOTTAL STOP VARIANT,cMID-LEVEL TONE LONG FINAL,ea,cLOW-FALLING TONE LONG,e,cGLOTTAL STOP",
    "cLOW-FALLING TONE LONG FINAL,ea,cGLOTTAL STOPa"]),
  (0x11C00, ["BHAIKSUKI LETTER A,bAA,bI,bII,bU,bUU,bVOCALIC R,cRR,cL,,bE,bAI,bO,bAU,bKA,bKHA,bGA,bGHA,bNGA,bCA,bCHA",
    "bJA,bJHA,bNYA,bTTA,bTTHA,bDDA,bDDHA,bNNA,bTA,bTHA,bDA,bDHA,bNA,bPA,bPHA,bBA,bBHA,bMA,bYA,bRA,bLA,bVA,bSHA,bSSA",
    "bSA,bHA,aVOWEL SIGN AA,cI,cII,cU,cUU,cVOCALIC R,dRR,dL,,cE,cAI,cO,cAU,aSIGN CANDRABINDU,bANUSVARA,bVISARGA",
    "bVIRAMA,bAVAGRAHA,aDANDA,aDOUBLEa,aWORD SEPARATOR,aGAP FILLER-1,bFILLER-2"]),
  (0x11C50, ["BHAIKSUKI DIGIT ZERO,bONE,bTWO,bTHREE,bFOUR,bFIVE,bSIX,bSEVEN,bEIGHT,bNINE,aNUMBER ONE,bTWO,bTHREE",
    "bFOUR,bFIVE,bSIX,bSEVEN,bEIGHT,bNINE,bTEN,bTWENTY,bTHIRTY,bFORTY,bFIFTY,bSIXTY,bSEVENTY,bEIGHTY,bNINETY",
    "aHUNDREDS UNIT MARK,,,,MARCHEN HEADa,aMARK SHAD,aLETTER KA,bKHA,bGA,bNGA,bCA,bCHA,bJA,bNYA,bTA,bTHA,bDA,bNA,bPA",
    "bPHA,bBA,bMA,bTSA,bTSHA,bDZA,bWA,bZHA,bZA,b-A,bYA,bRA,bLA,bSHA,bSA,bHA,bA,,,aSUBJOINED LETTER KA,cKHA,cGA,cNGA",
    "cCA,cCHA,cJA,cNYA,cTA,cTHA,cDA,cNA,cPA,cPHA,cBA,cMA,cTSA,cTSHA,cDZA,cWA,cZHA,cZA,,cYA,cRA,cLA,cSHA,cSA,cHA,cA",
    "aVOWEL SIGN AA,cI,cU,cE,cO,aSIGN ANUSVARA,bCANDRABINDU"]),
  (0x11D00, ["MASARAM GONDI LETTER A,cAA,cI,cII,cU,cUU,cE,,cAI,cO,,cAU,cKA,cKHA,cGA,cGHA,cNGA,cCA,cCHA,cJA,cJHA,cNYA",
    "cTTA,cTTHA,cDDA,cDDHA,cNNA,cTA,cTHA,cDA,cDHA,cNA,cPA,cPHA,cBA,cBHA,cMA,cYA,cRA,cLA,cVA,cSHA,cSSA,cSA,cHA,cLLA",
    "cKSSA,cJNYA,cTRA,bVOWEL SIGN AA,dI,dII,dU,dUU,dVOCALIC R,,,,dE,,dAI,dO,,dAU,bSIGN ANUSVARA,cVISARGA,cNUKTA",
    "cCANDRA,cHALANTA,bVIRAMA,bREPHA,bRA-KARA"]),
  (0x11D50, ["MASARAM GONDI DIGIT ZERO,cONE,cTWO,cTHREE,cFOUR,cFIVE,cSIX,cSEVEN,cEIGHT,cNINE"]),
  (0x11D60, ["GUNJALA GONDI LETTER A,cAA,cI,cII,cU,cUU,,cEE,cAI,,cOO,cAU,cYA,cVA,cBA,cBHA,cMA,cKA,cKHA,cTA,cTHA,cLA",
    "cGA,cGHA,cDA,cDHA,cNA,cCA,cCHA,cTTA,cTTHA,cLLA,cJA,cJHA,cDDA,cDDHA,cNGA,cPA,cPHA,cHA,cRA,cSA,bVOWEL SIGN AA,dI",
    "dII,dU,dUU,,dEE,dAI,,dOO,dAU,bSIGN ANUSVARA,cVISARGA,bVIRAMA,bOM"]),
  (0x11DA0, ["GUNJALA GONDI DIGIT ZERO,cONE,cTWO,cTHREE,cFOUR,cFIVE,cSIX,cSEVEN,cEIGHT,cNINE"]),
  (0x11EE0, ["MAKASAR LETTER KA,bGA,bNGA,bPA,bBA,bMA,bTA,bDA,bNA,bCA,bJA,bNYA,bYA,bRA,bLA,bVA,bSA,bA,aANGKA",
    "aVOWEL SIGN I,cU,cE,cO,aPASSIMBANG,aEND OF SECTION"]),
  (0x11FB0, ["LISU LETTER YHA"]),
  (0x11FC0, ["TAMIL FRACTION ONE THREE-HUNDRED-AND-TWENTIETH,cONE-HUNDRED-AND-SIXTIETH,cEIGHTIETH,cSIXTY-FOURTH",
    "cFORTIETH,cTHIRTY-SECOND,bTHREE EIGHTIETHS,cSIXTY-FOURTHS,bONE TWENTIETH,cSIXTEENTH-1,cSIXTEENTH-2,cTENTH",
    "cEIGHTH,bTHREE TWENTIETHS,cSIXTEENTHS,bONE FIFTH,cQUARTER,cHALF-1,cHALF-2,bTHREE QUARTERS",
    "bDOWNSCALING FACTOR KIIZH,aSIGN NEL,bCEVITU,bAAZHAAKKU,bUZHAKKU,bMUUVUZHAKKU,bKURUNI,bPATHAKKU,bMUKKURUNI",
    "bKAACU,bPANAM,bPON,bVARAAKAN,bPAARAM,bKUZHI,bVELI,aWET CULTIVATION SIGN,aDRYb,aLANDa,aSALT PANa",
    "aTRADITIONAL CREDITa,bNUMBERa,aCURRENTa,aAND ODDa,aSPENTa,aTOTALa,aIN POSSESSIONa,aSTARTING FROMa",
    "aSIGN MUTHALIYA,bVAKAIYARAA"]),
  (0x11FFF, ["TAMIL PUNCTUATION END OF TEXT"])]

end TagRules.CharacterName
