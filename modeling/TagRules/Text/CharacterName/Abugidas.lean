/-!
Names of the letters of South and East Asian scripts, of syllables, and of further Latin and Greek letters.
-/
namespace TagRules.CharacterName

/-- Rows of names, each with the code of its first name. -/
def abugidas : List (Nat × List String) := [
  (0x900, ["DEVANAGARI SIGN INVERTED CANDRABINDU,ba,bANUSVARA,bVISARGA,aLETTER SHORT A,bA,bAA,bI,bII,bU,bUU",
    "bVOCALIC R,cL,bCANDRA E,bSHORTa,bE,bAI,bCANDRA O,bSHORTa,bO,bAU,bKA,bKHA,bGA,bGHA,bNGA,bCA,bCHA,bJA,bJHA,bNYA",
    "bTTA,bTTHA,bDDA,bDDHA,bNNA,bTA,bTHA,bDA,bDHA,bNA,bNNNA,bPA,bPHA,bBA,bBHA,bMA,bYA,bRA,bRRA,bLA,bLLA,bLLLA,bVA",
    "bSHA,bSSA,bSA,bHA,aVOWEL SIGN OE,cOOE,aSIGN NUKTA,bAVAGRAHA,aVOWEL SIGN AA,cI,cII,cU,cUU,cVOCALIC R,dRR",
    "cCANDRA E,cSHORTa,cE,cAI,cCANDRA O,cSHORTa,cO,cAU,aSIGN VIRAMA,aVOWEL SIGN PRISHTHAMATRA E,cAW,aOM",
    "aSTRESS SIGN UDATTA,cANUDATTA,aGRAVE ACCENT,aACUTEa,aVOWEL SIGN CANDRA LONG E,cUE,cUUE,aLETTER QA,bKHHA,bGHHA",
    "bZA,bDDDHA,bRHA,bFA,bYYA,bVOCALIC RR,cLL,aVOWEL SIGN VOCALIC L,dLL,aDANDA,aDOUBLEa,aDIGIT ZERO,bONE,bTWO,bTHREE",
    "bFOUR,bFIVE,bSIX,bSEVEN,bEIGHT,bNINE,aABBREVIATION SIGN,aSIGN HIGH SPACING DOT,aLETTER CANDRA A,bOE,bOOE,bAW",
    "bUE,bUUE,bMARWARI DDA,bZHA,bHEAVY YA,bGGA,bJJA,bGLOTTAL STOP,bDDDA,bBBA,BENGALI ANJI,aSIGN CANDRABINDU",
    "bANUSVARA,bVISARGA,,aLETTER A,bAA,bI,bII,bU,bUU,bVOCALIC R,cL,,,bE,bAI,,,bO,bAU,bKA,bKHA,bGA,bGHA,bNGA,bCA,bCHA",
    "bJA,bJHA,bNYA,bTTA,bTTHA,bDDA,bDDHA,bNNA,bTA,bTHA,bDA,bDHA,bNA,,bPA,bPHA,bBA,bBHA,bMA,bYA,bRA,,bLA,,,,bSHA,bSSA",
    "bSA,bHA,,,aSIGN NUKTA,bAVAGRAHA,aVOWEL SIGN AA,cI,cII,cU,cUU,cVOCALIC R,dRR,,,cE,cAI,,,cO,cAU,aSIGN VIRAMA",
    "aLETTER KHANDA TA"]),
  (0x9D7, ["BENGALI AU LENGTH MARK"]),
  (0x9DC, ["BENGALI LETTER RRA,bRHA,,bYYA,bVOCALIC RR,cLL,aVOWEL SIGN VOCALIC L,dLL,,,aDIGIT ZERO,bONE,bTWO,bTHREE",
    "bFOUR,bFIVE,bSIX,bSEVEN,bEIGHT,bNINE,aLETTER RA WITH MIDDLE DIAGONAL,dLOWERa,aRUPEE MARK,bSIGN",
    "aCURRENCY NUMERATOR ONE,cTWO,cTHREE,cFOUR,cONE LESS THAN THE DENOMINATOR,bDENOMINATOR SIXTEEN,aISSHAR",
    "aGANDA MARK,aLETTER VEDIC ANUSVARA,aABBREVIATION SIGN,aSANDHI MARK"]),
  (0xA01, ["GURMUKHI SIGN ADAK BINDI,ba,bVISARGA,,aLETTER A,bAA,bI,bII,bU,bUU"]),
  (0xA0F, ["GURMUKHI LETTER EE,bAI,,,bOO,bAU,bKA,bKHA,bGA,bGHA,bNGA,bCA,bCHA,bJA,bJHA,bNYA,bTTA,bTTHA,bDDA,bDDHA",
    "bNNA,bTA,bTHA,bDA,bDHA,bNA,,bPA,bPHA,bBA,bBHA,bMA,bYA,bRA,,bLA,bLLA,,bVA,bSHA,,bSA,bHA,,,aSIGN NUKTA,",
    "aVOWEL SIGN AA,cI,cII,cU,cUU"]),
  (0xA47, ["GURMUKHI VOWEL SIGN EE,cAI,,,cOO,cAU,aSIGN VIRAMA,,,,bUDAAT"]),
  (0xA59, ["GURMUKHI LETTER KHHA,bGHHA,bZA,bRRA,,bFA"]),
  (0xA66, ["GURMUKHI DIGIT ZERO,bONE,bTWO,bTHREE,bFOUR,bFIVE,bSIX,bSEVEN,bEIGHT,bNINE,aTIPPI,aADDAK,aIRI,aURA",
    "aEK ONKAR,aSIGN YAKASH,aABBREVIATION SIGN"]),
  (0xA81, ["GUJARATI SIGN CANDRABINDU,bANUSVARA,bVISARGA,,aLETTER A,bAA,bI,bII,bU,bUU,bVOCALIC R,cL,aVOWEL CANDRA E,",
    "aLETTERa,bAI,aVOWEL CANDRA O,,aLETTERa,bAU,bKA,bKHA,bGA,bGHA,bNGA,bCA,bCHA,bJA,bJHA,bNYA,bTTA,bTTHA,bDDA,bDDHA",
    "bNNA,bTA,bTHA,bDA,bDHA,bNA,,bPA,bPHA,bBA,bBHA,bMA,bYA,bRA,,bLA,bLLA,,bVA,bSHA,bSSA,bSA,bHA,,,aSIGN NUKTA",
    "bAVAGRAHA,aVOWEL SIGN AA,cI,cII,cU,cUU,cVOCALIC R,dRR,cCANDRA E,,cE,cAI,cCANDRA O,,cO,cAU,aSIGN VIRAMA,,,aOM"]),
  (0xAE0, ["GUJARATI LETTER VOCALIC RR,cLL,aVOWEL SIGN VOCALIC L,dLL,,,aDIGIT ZERO,bONE,bTWO,bTHREE,bFOUR,bFIVE,bSIX",
    "bSEVEN,bEIGHT,bNINE,aABBREVIATION SIGN,aRUPEEa"]),
  (0xAF9, ["GUJARATI LETTER ZHA,aSIGN SUKUN,bSHADDA,bMADDAH,bTHREE-DOT NUKTA ABOVE,bCIRCLEb,bTWO-CIRCLEb"]),
  (0xB01, ["ORIYA SIGN CANDRABINDU,bANUSVARA,bVISARGA,,aLETTER A,bAA,bI,bII,bU,bUU,bVOCALIC R,cL,,,bE,bAI,,,bO,bAU",
    "bKA,bKHA,bGA,bGHA,bNGA,bCA,bCHA,bJA,bJHA,bNYA,bTTA,bTTHA,bDDA,bDDHA,bNNA,bTA,bTHA,bDA,bDHA,bNA,,bPA,bPHA,bBA",
    "bBHA,bMA,bYA,bRA,,bLA,bLLA,,bVA,bSHA,bSSA,bSA,bHA,,,aSIGN NUKTA,bAVAGRAHA,aVOWEL SIGN AA,cI,cII,cU,cUU",
    "cVOCALIC R,dRR,,,cE,cAI,,,cO,cAU,aSIGN VIRAMA"]),
  (0xB55, ["ORIYA SIGN OVERLINE,aAI LENGTH MARK,aAUb"]),
  (0xB5C, ["ORIYA LETTER RRA,bRHA,,bYYA,bVOCALIC RR,cLL,aVOWEL SIGN VOCALIC L,dLL,,,aDIGIT ZERO,bONE,bTWO,bTHREE",
    "bFOUR,bFIVE,bSIX,bSEVEN,bEIGHT,bNINE,aISSHAR,aLETTER WA,aFRACTION ONE QUARTER,cHALF,bTHREE QUARTERS",
    "bONE SIXTEENTH,cEIGHTH,bTHREE SIXTEENTHS"]),
  (0xB82, ["TAMIL SIGN ANUSVARA,bVISARGA,,aLETTER A,bAA,bI,bII,bU,bUU,,,,bE,bEE,bAI,,bO,bOO,bAU,bKA,,,,bNGA,bCA,,bJA",
    ",bNYA,bTTA,,,,bNNA,bTA,,,,bNA,bNNNA,bPA,,,,bMA,bYA,bRA,bRRA,bLA,bLLA,bLLLA,bVA,bSHA,bSSA,bSA,bHA"]),
  (0xBBE, ["TAMIL VOWEL SIGN AA,cI,cII,cU,cUU,,,,cE,cEE,cAI,,cO,cOO,cAU,aSIGN VIRAMA,,,aOM"]),
  (0xBD7, ["TAMIL AU LENGTH MARK"]),
  (0xBE6, ["TAMIL DIGIT ZERO,bONE,bTWO,bTHREE,bFOUR,bFIVE,bSIX,bSEVEN,bEIGHT,bNINE,aNUMBER TEN,bONE HUNDRED",
    "cTHOUSAND,aDAY SIGN,aMONTHa,aYEARa,aDEBITa,aCREDITa,aAS ABOVEa,aRUPEEa,aNUMBERa"]),
  (0xC00, ["TELUGU SIGN COMBINING CANDRABINDU ABOVE,bCANDRABINDU,bANUSVARA,bVISARGA,bCOMBINING ANUSVARA ABOVE",
    "aLETTER A,bAA,bI,bII,bU,bUU,bVOCALIC R,cL,,bE,bEE,bAI,,bO,bOO,bAU,bKA,bKHA,bGA,bGHA,bNGA,bCA,bCHA,bJA,bJHA,bNYA",
    "bTTA,bTTHA,bDDA,bDDHA,bNNA,bTA,bTHA,bDA,bDHA,bNA,,bPA,bPHA,bBA,bBHA,bMA,bYA,bRA,bRRA,bLA,bLLA,bLLLA,bVA,bSHA",
    "bSSA,bSA,bHA,,,aSIGN NUKTA,bAVAGRAHA,aVOWEL SIGN AA,cI,cII,cU,cUU,cVOCALIC R,dRR,,cE,cEE,cAI,,cO,cOO,cAU",
    "aSIGN VIRAMA"]),
  (0xC55, ["TELUGU LENGTH MARK,aAIb,,aLETTER TSA,bDZA,bRRRA,,,bNAKAARA POLLU,,,bVOCALIC RR,cLL,aVOWEL SIGN VOCALIC L",
    "dLL,,,aDIGIT ZERO,bONE,bTWO,bTHREE,bFOUR,bFIVE,bSIX,bSEVEN,bEIGHT,bNINE"]),
  (0xC77, ["TELUGU SIGN SIDDHAM,aFRACTION DIGIT ZERO FOR ODD POWERS OF FOUR,cONEe,cTWOe,cTHREEe,cONE FOR EVENc,cTWOe",
    "cTHREEe,aSIGN TUUMU,KANNADA SIGN SPACING CANDRABINDU,ba,bANUSVARA,bVISARGA,bSIDDHAM,aLETTER A,bAA,bI,bII,bU,bUU",
    "bVOCALIC R,cL,,bE,bEE,bAI,,bO,bOO,bAU,bKA,bKHA,bGA,bGHA,bNGA,bCA,bCHA,bJA,bJHA,bNYA,bTTA,bTTHA,bDDA,bDDHA,bNNA",
    "bTA,bTHA,bDA,bDHA,bNA,,bPA,bPHA,bBA,bBHA,bMA,bYA,bRA,bRRA,bLA,bLLA,,bVA,bSHA,bSSA,bSA,bHA,,,aSIGN NUKTA",
    "bAVAGRAHA,aVOWEL SIGN AA,cI,cII,cU,cUU,cVOCALIC R,dRR,,cE,cEE,cAI,,cO,cOO,cAU,aSIGN VIRAMA"]),
  (0xCD5, ["KANNADA LENGTH MARK,aAIb"]),
  (0xCDD, ["KANNADA LETTER NAKAARA POLLU,bFA,,bVOCALIC RR,cLL,aVOWEL SIGN VOCALIC L,dLL,,,aDIGIT ZERO,bONE,bTWO",
    "bTHREE,bFOUR,bFIVE,bSIX,bSEVEN,bEIGHT,bNINE,,aSIGN JIHVAMULIYA,bUPADHMANIYA"]),
  (0xD00, ["MALAYALAM SIGN COMBINING ANUSVARA ABOVE,bCANDRABINDU,bANUSVARA,bVISARGA,aLETTER VEDIC ANUSVARA,bA,bAA,bI",
    "bII,bU,bUU,bVOCALIC R,cL,,bE,bEE,bAI,,bO,bOO,bAU,bKA,bKHA,bGA,bGHA,bNGA,bCA,bCHA,bJA,bJHA,bNYA,bTTA,bTTHA,bDDA",
    "bDDHA,bNNA,bTA,bTHA,bDA,bDHA,bNA,bNNNA,bPA,bPHA,bBA,bBHA,bMA,bYA,bRA,bRRA,bLA,bLLA,bLLLA,bVA,bSHA,bSSA,bSA,bHA",
    "bTTTA,aSIGN VERTICAL BAR VIRAMA,bCIRCULARa,bAVAGRAHA,aVOWEL SIGN AA,cI,cII,cU,cUU,cVOCALIC R,dRR,,cE,cEE,cAI,",
    "cO,cOO,cAU,aSIGN VIRAMA,aLETTER DOT REPH,aSIGN PARA"]),
  (0xD54, ["MALAYALAM LETTER CHILLU M,cY,cLLL,aAU LENGTH MARK,aFRACTION ONE ONE-HUNDRED-AND-SIXTIETH,cFORTIETH",
    "bTHREE EIGHTIETHS,bONE TWENTIETH,cTENTH,bTHREE TWENTIETHS,bONE FIFTH,aLETTER ARCHAIC II,bVOCALIC RR,cLL",
    "aVOWEL SIGN VOCALIC L,dLL,,,aDIGIT ZERO,bONE,bTWO,bTHREE,bFOUR,bFIVE,bSIX,bSEVEN,bEIGHT,bNINE,aNUMBER TEN",
    "bONE HUNDRED,cTHOUSAND,aFRACTION ONE QUARTER,cHALF,bTHREE QUARTERS,bONE SIXTEENTH,cEIGHTH,bTHREE SIXTEENTHS",
    "aDATE MARK,aLETTER CHILLU NN,cN,cRR,cL,cLL,cK,,SINHALA SIGN CANDRABINDU,bANUSVARAYA,bVISARGAYA,,aLETTER AYANNA",
    "bAAYANNA,bAEYANNA,bAEEYANNA,bIYANNA,bIIYANNA,bUYANNA,bUUYANNA,bIRUYANNA,bIRUUYANNA,bILUYANNA,bILUUYANNA,bEYANNA",
    "bEEYANNA,bAIYANNA,bOYANNA,bOOYANNA,bAUYANNA,,,,bALPAPRAANA KAYANNA,bMAHAAPRAANAa,bALPAPRAANA GAYANNA",
    "bMAHAAPRAANAa,bKANTAJA NAASIKYAYA,bSANYAKA GAYANNA,bALPAPRAANA CAYANNA,bMAHAAPRAANAa,bALPAPRAANA JAYANNA",
    "bMAHAAPRAANAa,bTAALUJA NAASIKYAYA,cSANYOOGA NAAKSIKYAYA,bSANYAKA JAYANNA,bALPAPRAANA TTAYANNA,bMAHAAPRAANAa",
    "bALPAPRAANA DDAYANNA,bMAHAAPRAANAa,bMUURDHAJA NAYANNA,bSANYAKA DDAYANNA,bALPAPRAANA TAYANNA,bMAHAAPRAANAa",
    "bALPAPRAANA DAYANNA,bMAHAAPRAANAa,bDANTAJA NAYANNA,,bSANYAKA DAYANNA,bALPAPRAANA PAYANNA,bMAHAAPRAANAa",
    "bALPAPRAANA BAYANNA,bMAHAAPRAANAa,bMAYANNA,bAMBA BAYANNA,bYAYANNA,bRAYANNA,,bDANTAJA LAYANNA,,,bVAYANNA",
    "bTAALUJA SAYANNA,bMUURDHAJAa,bDANTAJAa,bHAYANNA,bMUURDHAJA LAYANNA,bFAYANNA,,,,aSIGN AL-LAKUNA"]),
  (0xDCF, ["SINHALA VOWEL SIGN AELA-PILLA,cKETTI AEDA-PILLA,cDIGAa,cKETTI IS-PILLA,cDIGAa,cKETTI PAA-PILLA,,cDIGAa,",
    "cGAETTA-PILLA,cKOMBUVA,cDIGAa,cKOMBU DEKA,cKOMBUVA HAA AELA-PILLA,eDIGAa,eGAYANUKITTA,ca"]),
  (0xDE6, ["SINHALA LITH DIGIT ZERO,cONE,cTWO,cTHREE,cFOUR,cFIVE,cSIX,cSEVEN,cEIGHT,cNINE,,",
    "aVOWEL SIGN DIGA GAETTA-PILLA,dGAYANUKITTA,aPUNCTUATION KUNDDALIYA"]),
  (0xE01, ["THAI CHARACTER KO KAI,bKHO KHAI,cKHUAT,cKHWAI,cKHON,cRAKHANG,bNGO NGU,bCHO CHAN,cCHING,cCHANG,bSO SO",
    "bCHO CHOE,bYO YING,bDO CHADA,bTO PATAK,bTHO THAN,cNANGMONTHO,cPHUTHAO,bNO NEN,bDO DEK,bTO TAO,bTHO THUNG",
    "cTHAHAN,cTHONG,bNO NU,bBO BAIMAI,bPO PLA,bPHO PHUNG,bFO FA,bPHO PHAN,bFO FAN,bPHO SAMPHAO,bMO MA,bYO YAK",
    "bRO RUA,bRU,bLO LING,bLU,bWO WAEN,bSO SALA,cRUSI,cSUA,bHO HIP,bLO CHULA,bO ANG,bHO NOKHUK,bPAIYANNOI,bSARA A",
    "bMAI HAN-AKAT,bSARA AA,cAM,cI,cII,cUE,cUEE,cU,cUU,bPHINTHU"]),
  (0xE3F, ["THAI CURRENCY SYMBOL BAHT,aCHARACTER SARA E,cAE,cO,cAI MAIMUAN,dMAIMALAI,bLAKKHANGYAO,bMAIYAMOK",
    "bMAITAIKHU,bMAI EK,cTHO,cTRI,cCHATTAWA,bTHANTHAKHAT,bNIKHAHIT,bYAMAKKAN,bFONGMAN,aDIGIT ZERO,bONE,bTWO,bTHREE",
    "bFOUR,bFIVE,bSIX,bSEVEN,bEIGHT,bNINE,aCHARACTER ANGKHANKHU,bKHOMUT"]),
  (0xE81, ["LAO LETTER KO,bKHO SUNG,,cTAM,,bPALI GHA,bNGO,bCO,bPALI CHA,bSO TAM,,bPALI JHA,bNYO,bPALI NYA,cTTA,cTTHA",
    "cDDA,cDDHA,cNNA,bDO,bTO,bTHO SUNG,cTAM,bPALI DHA,bNO,bBO,bPO,bPHO SUNG,bFO TAM,bPHOa,bFO SUNG,bPALI BHA,bMO,bYO",
    "bLO LING,,cLOOT,,bWO,bSANSKRIT SHA,cSSA,bSO SUNG,bHOa,bPALI LLA,bO,bHO TAM,aELLIPSIS,aVOWEL SIGN A,cMAI KAN,cAA",
    "cAM,cI,cII,cY,cYY,cU,cUU,aSIGN PALI VIRAMA,aVOWEL SIGN MAI KON,aSEMIVOWEL SIGN LO,cNYO,,,aVOWEL SIGN E,cEI,cO",
    "cAY,cAI,,aKO LA,,aTONE MAI EK,cTHO,cTI,cCATAWA,aCANCELLATION MARK,aNIGGAHITA,,,aDIGIT ZERO,bONE,bTWO,bTHREE",
    "bFOUR,bFIVE,bSIX,bSEVEN,bEIGHT,bNINE,,,aHO NO,bMO,aLETTER KHMU GO,cNYO"]),
  (0xF00, ["TIBETAN SYLLABLE OM,aMARK GTER YIG MGO TRUNCATED A,e-UM RNAM BCAD MA,fGTER TSHEGa,bINITIAL YIG MGO MDUNa",
    "bCLOSING YIG MGO SGABa,bCARET YIG MGO PHUR SHADa,bYIG MGO TSHEGb,bSBRUL SHAD,bBSKUR YIG MGO,bBKA- SHOGb",
    "bINTERSYLLABIC TSHEG,bDELIMITER TSHEG BSTAR,bSHAD,bNYISa,bTSHEGa,bNYISb,bRIN CHEN SPUNGSa,bRGYA GRAMa",
    "bCARET -DZUD RTAGS ME LONG CAN,bGTER TSHEG,aLOGOTYPE SIGN CHAD RTAGS,cLHAGa,aASTROLOGICAL SIGN SGRA GCAN -CHARa",
    "c-KHYUD PA,cSDONG TSHUGS,aSIGN RDEL DKAR GCIG,dGNYIS,dGSUM,cNAG GCIG,dGNYIS,cDKAR RDEL NAG,aDIGIT ZERO,bONE",
    "bTWO,bTHREE,bFOUR,bFIVE,bSIX,bSEVEN,bEIGHT,bNINE,bHALF ONE,cTWO,cTHREE,cFOUR,cFIVE,cSIX,cSEVEN,cEIGHT,cNINE",
    "cZERO,aMARK BSDUS RTAGS,bNGAS BZUNG NYI ZLA,bCARET -DZUD RTAGS BZHI MIG CAN,bNGAS BZUNG SGOR RTAGS,bCHE MGO",
    "bTSA -PHRU,bGUG RTAGS GYON,dGYAS,bANG KHANG GYON,dGYAS,aSIGN YAR TSHES,bMARa,aLETTER KA,bKHA,bGA,bGHA,bNGA,bCA",
    "bCHA,bJA,,bNYA,bTTA,bTTHA,bDDA,bDDHA,bNNA,bTA,bTHA,bDA,bDHA,bNA,bPA,bPHA,bBA,bBHA,bMA,bTSA,bTSHA,bDZA,bDZHA,bWA",
    "bZHA,bZA,b-A,bYA,bRA,bLA,bSHA,bSSA,bSA,bHA,bA,bKSSA,bFIXED-FORM RA,bKKA,bRRA"]),
  (0xF71, ["TIBETAN VOWEL SIGN AA,cI,cII,cU,cUU,cVOCALIC R,dRR,dL,dLL,cE,cEE,cO,cOO,aSIGN RJES SU NGA RO,bRNAM BCAD",
    "aVOWEL SIGN REVERSED I,dII,aSIGN NYI ZLA NAA DA,bSNA LDAN,aMARK HALANTA,bPALUTA,aSIGN LCI RTAGS,bYANGa",
    "bLCE TSA CAN,bMCHUa,bGRU CAN RGYINGS,cMEDa,bINVERTED MCHU CAN,aSUBJOINED SIGN LCE TSAa,cMCHUa,cINVERTEDb",
    "bLETTER KA,cKHA,cGA,cGHA,cNGA,cCA,cCHA,cJA,,cNYA,cTTA,cTTHA,cDDA,cDDHA,cNNA,cTA,cTHA,cDA,cDHA,cNA,cPA,cPHA,cBA",
    "cBHA,cMA,cTSA,cTSHA,cDZA,cDZHA,cWA,cZHA,cZA,c-A,cYA,cRA,cLA,cSHA,cSSA,cSA,cHA,cA,cKSSA,cFIXED-FORM WA,dYA,dRA,",
    "aKU RU KHA,dBZHI MIG CAN,aCANTILLATION SIGN HEAVY BEAT,cLIGHTa,cCANG TE-U,cSBUB -CHAL,aSYMBOL DRIL BU,bRDO RJE",
    "bPADMA GDAN,bRDO RJE RGYA GRAM,bPHUR PA,bNOR BU,dNYIS -KHYIL,dGSUMa,dBZHIa,,aSIGN RDEL NAG RDEL DKAR,dGSUM",
    "aMARK BSKA- SHOG GI MGO RGYAN,bMNYAM YIGc,bNYIS TSHEG,bINITIAL BRDA RNYING YIG MGO MDUN MA",
    "bCLOSING BRDA RNYING YIG MGO SGABa,RIGHT-FACING SVASTI SIGN,LEFT-FACINGb,RIGHT-FACING SVASTI SIGN WITH DOTS",
    "LEFT-FACINGd,TIBETAN MARK LEADING MCHAN RTAGS,bTRAILINGb"]),
  (0x1000, ["MYANMAR LETTER KA,bKHA,bGA,bGHA,bNGA,bCA,bCHA,bJA,bJHA,bNYA,bNNYA,bTTA,bTTHA,bDDA,bDDHA,bNNA,bTA,bTHA",
    "bDA,bDHA,bNA,bPA,bPHA,bBA,bBHA,bMA,bYA,bRA,bLA,bWA,bSA,bHA,bLLA,bA,bSHANa,bI,bII,bU,bUU,bE,bMONa,bO,bAU",
    "aVOWEL SIGN TALL AA,ca,cI,cII,cU,cUU,cE,cAI,cMON II,dO,cE ABOVE,aSIGN ANUSVARA,bDOT BELOW,bVISARGA,bVIRAMA",
    "bASAT,aCONSONANT SIGN MEDIAL YA,dRA,dWA,dHA,aLETTER GREAT SA,aDIGIT ZERO,bONE,bTWO,bTHREE,bFOUR,bFIVE,bSIX",
    "bSEVEN,bEIGHT,bNINE,aSIGN LITTLE SECTION,ba,aSYMBOL LOCATIVE,bCOMPLETED,bAFOREMENTIONED,bGENITIVE,aLETTER SHA",
    "bSSA,bVOCALIC R,cRR,cL,cLL,aVOWEL SIGN VOCALIC R,dRR,dL,dLL,aLETTER MON NGA,cJHA,cBBA,cBBE",
    "aCONSONANT SIGN MON MEDIAL NA,eMA,eLA,aLETTER SGAW KAREN SHA,aVOWEL SIGN SGAW KAREN EU",
    "aTONE MARK SGAW KAREN HATHI,eKE PHO,aLETTER WESTERN PWO KAREN THA,ePWA,aVOWEL SIGN WESTERN PWO KAREN EU,fUE",
    "aSIGN WESTERN PWO KAREN TONE-1,eTONE-2,eTONE-3,eTONE-4,eTONE-5,aLETTER EASTERN PWO KAREN NNA,eYWA,eGHWA",
    "aVOWEL SIGN GEBA KAREN I,cKAYAH OE,dU,dEE,aLETTER SHAN KA,cKHA,cGA,cCA,cZA,cNYA,cDA,cNA,cPHA,cFA,cBA,cTHA,cHA",
    "aCONSONANT SIGN SHAN MEDIAL WA,aVOWEL SIGN SHAN AA,dE,eABOVE,dFINAL Y,aSIGN SHAN TONE-2,cTONE-3,cTONE-5,cTONE-6",
    "cCOUNCIL TONE-2,dTONE-3,dEMPHATIC TONE,aLETTER RUMAI PALAUNG FA,aSIGN RUMAI PALAUNG TONE-5,aSHAN DIGIT ZERO",
    "cONE,cTWO,cTHREE,cFOUR,cFIVE,cSIX,cSEVEN,cEIGHT,cNINE,aSIGN KHAMTI TONE-1,cTONE-3,aVOWEL SIGN AITON A,dAI",
    "aSYMBOL SHAN ONE,cEXCLAMATION,GEORGIAN CAPITAL LETTER AN,cBAN,cGAN,cDON,cEN,cVIN,cZEN,cTAN,cIN,cKAN,cLAS,cMAN",
    "cNAR,cON,cPAR,cZHAR,cRAE,cSAN,cTAR,cUN,cPHAR,cKHAR,cGHAN,cQAR,cSHIN,cCHIN,cCAN,cJIL,cCIL,cCHAR,cXAN,cJHAN,cHAE",
    "cHE,cHIE,cWE,cHAR,cHOE,,cYN"]),
  (0x10CD, ["GEORGIAN CAPITAL LETTER AEN,,,aLETTER AN,bBAN,bGAN,bDON,bEN,bVIN,bZEN,bTAN,bIN,bKAN,bLAS,bMAN,bNAR,bON",
    "bPAR,bZHAR,bRAE,bSAN,bTAR,bUN,bPHAR,bKHAR,bGHAN,bQAR,bSHIN,bCHIN,bCAN,bJIL,bCIL,bCHAR,bXAN,bJHAN,bHAE,bHE,bHIE",
    "bWE,bHAR,bHOE,bFI,bYN,bELIFI,bTURNED GAN,bAIN,aPARAGRAPH SEPARATOR,MODIFIER LETTER GEORGIAN NAR",
    "GEORGIAN LETTER AEN,bHARD SIGN,bLABIALa"]),
  (0x1100, ["HANGUL CHOSEONG KIYEOK,bSSANGKIYEOK,bNIEUN,bTIKEUT,bSSANGTIKEUT,bRIEUL,bMIEUM,bPIEUP,bSSANGPIEUP,bSIOS",
    "bSSANGSIOS,bIEUNG,bCIEUC,bSSANGCIEUC,bCHIEUCH,bKHIEUKH,bTHIEUTH,bPHIEUPH,bHIEUH,bNIEUN-KIYEOK,bSSANGNIEUN",
    "bNIEUN-TIKEUT,bNIEUN-PIEUP,bTIKEUT-KIYEOK,bRIEUL-NIEUN,bSSANGRIEUL,bRIEUL-HIEUH,bKAPYEOUNRIEUL,bMIEUM-PIEUP",
    "bKAPYEOUNMIEUM,bPIEUP-KIYEOK,bPIEUP-NIEUN,bPIEUP-TIKEUT,bPIEUP-SIOS,bPIEUP-SIOS-KIYEOK,bPIEUP-SIOS-TIKEUT",
    "bPIEUP-SIOS-PIEUP,bPIEUP-SSANGSIOS,bPIEUP-SIOS-CIEUC,bPIEUP-CIEUC,bPIEUP-CHIEUCH,bPIEUP-THIEUTH,bPIEUP-PHIEUPH",
    "bKAPYEOUNPIEUP,bKAPYEOUNSSANGPIEUP,bSIOS-KIYEOK,bSIOS-NIEUN,bSIOS-TIKEUT,bSIOS-RIEUL,bSIOS-MIEUM,bSIOS-PIEUP",
    "bSIOS-PIEUP-KIYEOK,bSIOS-SSANGSIOS,bSIOS-IEUNG,bSIOS-CIEUC,bSIOS-CHIEUCH,bSIOS-KHIEUKH,bSIOS-THIEUTH",
    "bSIOS-PHIEUPH,bSIOS-HIEUH,bCHITUEUMSIOS,bCHITUEUMSSANGSIOS,bCEONGCHIEUMSIOS,bCEONGCHIEUMSSANGSIOS,bPANSIOS",
    "bIEUNG-KIYEOK,bIEUNG-TIKEUT,bIEUNG-MIEUM,bIEUNG-PIEUP,bIEUNG-SIOS,bIEUNG-PANSIOS,bSSANGIEUNG,bIEUNG-CIEUC",
    "bIEUNG-CHIEUCH,bIEUNG-THIEUTH,bIEUNG-PHIEUPH,bYESIEUNG,bCIEUC-IEUNG,bCHITUEUMCIEUC,bCHITUEUMSSANGCIEUC",
    "bCEONGCHIEUMCIEUC,bCEONGCHIEUMSSANGCIEUC,bCHIEUCH-KHIEUKH,bCHIEUCH-HIEUH,bCHITUEUMCHIEUCH,bCEONGCHIEUMCHIEUCH",
    "bPHIEUPH-PIEUP,bKAPYEOUNPHIEUPH,bSSANGHIEUH,bYEORINHIEUH,bKIYEOK-TIKEUT,bNIEUN-SIOS,bNIEUN-CIEUC,bNIEUN-HIEUH",
    "bTIKEUT-RIEUL,bFILLER,aJUNGSEONGa,bA,bAE,bYA,bYAE,bEO,bE,bYEO,bYE,bO,bWA,bWAE,bOE,bYO,bU,bWEO,bWE,bWI,bYU,bEU",
    "bYI,bI,bA-O,bA-U,bYA-O,bYA-YO,bEO-O,bEO-U,bEO-EU,bYEO-O,bYEO-U,bO-EO,bO-E,bO-YE,bO-O,bO-U,bYO-YA,bYO-YAE",
    "bYO-YEO,bYO-O,bYO-I,bU-A,bU-AE,bU-EO-EU,bU-YE,bU-U,bYU-A,bYU-EO,bYU-E,bYU-YEO,bYU-YE,bYU-U,bYU-I,bEU-U,bEU-EU",
    "bYI-U,bI-A,bI-YA,bI-O,bI-U,bI-EU,bI-ARAEA,bARAEA,bARAEA-EO,bARAEA-U,bARAEA-I,bSSANGARAEA,bA-EU,bYA-U,bYEO-YA",
    "bO-YA,bO-YAE,aJONGSEONG KIYEOK,bSSANGKIYEOK,bKIYEOK-SIOS,bNIEUN,bNIEUN-CIEUC,bNIEUN-HIEUH,bTIKEUT,bRIEUL",
    "bRIEUL-KIYEOK,bRIEUL-MIEUM,bRIEUL-PIEUP,bRIEUL-SIOS,bRIEUL-THIEUTH,bRIEUL-PHIEUPH,bRIEUL-HIEUH,bMIEUM,bPIEUP",
    "bPIEUP-SIOS,bSIOS,bSSANGSIOS,bIEUNG,bCIEUC,bCHIEUCH,bKHIEUKH,bTHIEUTH,bPHIEUPH,bHIEUH,bKIYEOK-RIEUL",
    "bKIYEOK-SIOS-KIYEOK,bNIEUN-KIYEOK,bNIEUN-TIKEUT,bNIEUN-SIOS,bNIEUN-PANSIOS,bNIEUN-THIEUTH,bTIKEUT-KIYEOK",
    "bTIKEUT-RIEUL,bRIEUL-KIYEOK-SIOS,bRIEUL-NIEUN,bRIEUL-TIKEUT,bRIEUL-TIKEUT-HIEUH,bSSANGRIEUL,bRIEUL-MIEUM-KIYEOK",
    "bRIEUL-MIEUM-SIOS,bRIEUL-PIEUP-SIOS,bRIEUL-PIEUP-HIEUH,bRIEUL-KAPYEOUNPIEUP,bRIEUL-SSANGSIOS,bRIEUL-PANSIOS",
    "bRIEUL-KHIEUKH,bRIEUL-YEORINHIEUH,bMIEUM-KIYEOK,bMIEUM-RIEUL,bMIEUM-PIEUP,bMIEUM-SIOS,bMIEUM-SSANGSIOS",
    "bMIEUM-PANSIOS,bMIEUM-CHIEUCH,bMIEUM-HIEUH,bKAPYEOUNMIEUM,bPIEUP-RIEUL,bPIEUP-PHIEUPH,bPIEUP-HIEUH",
    "bKAPYEOUNPIEUP,bSIOS-KIYEOK,bSIOS-TIKEUT,bSIOS-RIEUL,bSIOS-PIEUP,bPANSIOS,bIEUNG-KIYEOK,bIEUNG-SSANGKIYEOK",
    "bSSANGIEUNG,bIEUNG-KHIEUKH,bYESIEUNG,bYESIEUNG-SIOS,bYESIEUNG-PANSIOS,bPHIEUPH-PIEUP,bKAPYEOUNPHIEUPH",
    "bHIEUH-NIEUN,bHIEUH-RIEUL,bHIEUH-MIEUM,bHIEUH-PIEUP,bYEORINHIEUH,bKIYEOK-NIEUN,bKIYEOK-PIEUP,bKIYEOK-CHIEUCH",
    "bKIYEOK-KHIEUKH,bKIYEOK-HIEUH,bSSANGNIEUN"]),
  (0x1200, ["ETHIOPIC SYLLABLE HA,bHU,bHI,bHAA,bHEE,bHE,bHO,bHOA,bLA,bLU,bLI,bLAA,bLEE,bLE,bLO,bLWA,bHHA,bHHU,bHHI",
    "bHHAA,bHHEE,bHHE,bHHO,bHHWA,bMA,bMU,bMI,bMAA,bMEE,bME,bMO,bMWA,bSZA,bSZU,bSZI,bSZAA,bSZEE,bSZE,bSZO,bSZWA,bRA",
    "bRU,bRI,bRAA,bREE,bRE,bRO,bRWA,bSA,bSU,bSI,bSAA,bSEE,bSE,bSO,bSWA,bSHA,bSHU,bSHI,bSHAA,bSHEE,bSHE,bSHO,bSHWA",
    "bQA,bQU,bQI,bQAA,bQEE,bQE,bQO,bQOA,bQWA,,bQWI,bQWAA,bQWEE,bQWE,,,bQHA,bQHU,bQHI,bQHAA,bQHEE,bQHE,bQHO,,bQHWA,",
    "bQHWI,bQHWAA,bQHWEE,bQHWE,,,bBA,bBU,bBI,bBAA,bBEE,bBE,bBO,bBWA,bVA,bVU,bVI,bVAA,bVEE,bVE,bVO,bVWA,bTA,bTU,bTI",
    "bTAA,bTEE,bTE,bTO,bTWA,bCA,bCU,bCI,bCAA,bCEE,bCE,bCO,bCWA,bXA,bXU,bXI,bXAA,bXEE,bXE,bXO,bXOA,bXWA,,bXWI,bXWAA",
    "bXWEE,bXWE,,,bNA,bNU,bNI,bNAA,bNEE,bNE,bNO,bNWA,bNYA,bNYU,bNYI,bNYAA,bNYEE,bNYE,bNYO,bNYWA,bGLOTTAL A,cU,cI,cAA",
    "cEE,cE,cO,cWA,bKA,bKU,bKI,bKAA,bKEE,bKE,bKO,bKOA,bKWA,,bKWI,bKWAA,bKWEE,bKWE,,,bKXA,bKXU,bKXI,bKXAA,bKXEE,bKXE",
    "bKXO,,bKXWA,,bKXWI,bKXWAA,bKXWEE,bKXWE,,,bWA,bWU,bWI,bWAA,bWEE,bWE,bWO,bWOA,bPHARYNGEAL A,cU,cI,cAA,cEE,cE,cO,",
    "bZA,bZU,bZI,bZAA,bZEE,bZE,bZO,bZWA,bZHA,bZHU,bZHI,bZHAA,bZHEE,bZHE,bZHO,bZHWA,bYA,bYU,bYI,bYAA,bYEE,bYE,bYO",
    "bYOA,bDA,bDU,bDI,bDAA,bDEE,bDE,bDO,bDWA,bDDA,bDDU,bDDI,bDDAA,bDDEE,bDDE,bDDO,bDDWA"]),
  (0x1300, ["ETHIOPIC SYLLABLE JA,bJU,bJI,bJAA,bJEE,bJE,bJO,bJWA,bGA,bGU,bGI,bGAA,bGEE,bGE,bGO,bGOA,bGWA,,bGWI,bGWAA",
    "bGWEE,bGWE,,,bGGA,bGGU,bGGI,bGGAA,bGGEE,bGGE,bGGO,bGGWAA,bTHA,bTHU,bTHI,bTHAA,bTHEE,bTHE,bTHO,bTHWA,bCHA,bCHU",
    "bCHI,bCHAA,bCHEE,bCHE,bCHO,bCHWA,bPHA,bPHU,bPHI,bPHAA,bPHEE,bPHE,bPHO,bPHWA,bTSA,bTSU,bTSI,bTSAA,bTSEE,bTSE",
    "bTSO,bTSWA,bTZA,bTZU,bTZI,bTZAA,bTZEE,bTZE,bTZO,bTZOA,bFA,bFU,bFI,bFAA,bFEE,bFE,bFO,bFWA,bPA,bPU,bPI,bPAA,bPEE",
    "bPE,bPO,bPWA,bRYA,bMYA,bFYA,,,aCOMBINING GEMINATION AND VOWEL LENGTH MARK,bc,bGEMINATIONa,aSECTIONa,aWORDSPACE",
    "aFULL STOP,aCOMMA,aSEMICOLON,aCOLON,aPREFACEa,aQUESTION MARK,aPARAGRAPH SEPARATOR,aDIGIT ONE,bTWO,bTHREE,bFOUR",
    "bFIVE,bSIX,bSEVEN,bEIGHT,bNINE,aNUMBER TEN,bTWENTY,bTHIRTY,bFORTY,bFIFTY,bSIXTY,bSEVENTY,bEIGHTY,bNINETY",
    "bHUNDRED,bTEN THOUSAND,,,,aSYLLABLE SEBATBEIT MWA,bMWI,bMWEE,bMWE,bSEBATBEIT BWA,bBWI,bBWEE,bBWE,bSEBATBEIT FWA",
    "bFWI,bFWEE,bFWE,bSEBATBEIT PWA,bPWI,bPWEE,bPWE,aTONAL MARK YIZET,cDERET,cRIKRIK,cSHORTa,cDIFAT,cKENAT,cCHIRET",
    "cHIDET,cDERET-HIDET,cKURT"]),
  (0x13A0, ["CHEROKEE LETTER A,bE,bI,bO,bU,bV,bGA,bKA,bGE,bGI,bGO,bGU,bGV,bHA,bHE,bHI,bHO,bHU,bHV,bLA,bLE,bLI,bLO",
    "bLU,bLV,bMA,bME,bMI,bMO,bMU,bNA,bHNA,bNAH,bNE,bNI,bNO,bNU,bNV,bQUA,bQUE,bQUI,bQUO,bQUU,bQUV,bSA,bS,bSE,bSI,bSO",
    "bSU,bSV,bDA,bTA,bDE,bTE,bDI,bTI,bDO,bDU,bDV,bDLA,bTLA,bTLE,bTLI,bTLO,bTLU,bTLV,bTSA,bTSE,bTSI,bTSO,bTSU,bTSV",
    "bWA,bWE,bWI,bWO,bWU,bWV,bYA,bYE,bYI,bYO,bYU,bYV,bMV,,,aSMALL LETTER YE,cYI,cYO,cYU,cYV,cMV"]),
  (0x1400, ["CANADIAN SYLLABICS HYPHEN,bE,bAAI,bI,bII,bO,bOO,bY-CREEa,bCARRIER EE,cI,bA,bAA,bWE,bWEST-CREEa,bWI",
    "bWEST-CREEa,bWII,bWEST-CREEa,bWO,bWEST-CREEa,bWOO,bWEST-CREEa,bNASKAPIa,bWA,bWEST-CREEa,bWAA,bWEST-CREEa",
    "bNASKAPIa,bAI,bY-CREE W,bGLOTTAL STOP,bFINAL ACUTE,cGRAVE,cBOTTOM HALF RING,cTOPb,cRIGHTb,ca,cDOUBLE ACUTE",
    "dSHORT VERTICAL STROKES,cMIDDLE DOT,cSHORT HORIZONTAL STROKE,cPLUS,cDOWN TACK,bEN,bIN,bON,bAN,bPE,bPAAI,bPI",
    "bPII,bPO,bPOO,bY-CREEa,bCARRIER HEE,cHI,bPA,bPAA,bPWE,bWEST-CREEa,bPWI,bWEST-CREEa,bPWII,bWEST-CREEa,bPWO",
    "bWEST-CREEa,bPWOO,bWEST-CREEa,bPWA,bWEST-CREEa,bPWAA,bWEST-CREEa,bY-CREEa,bP,bWEST-CREEa,bCARRIER H,bTE,bTAAI",
    "bTI,bTII,bTO,bTOO,bY-CREEa,bCARRIER DEE,cDI,bTA,bTAA,bTWE,bWEST-CREEa,bTWI,bWEST-CREEa,bTWII,bWEST-CREEa,bTWO",
    "bWEST-CREEa,bTWOO,bWEST-CREEa,bTWA,bWEST-CREEa,bTWAA,bWEST-CREEa,bNASKAPIa,bT,bTTE,bTTI,bTTO,bTTA,bKE,bKAAI,bKI",
    "bKII,bKO,bKOO,bY-CREEa,bKA,bKAA,bKWE,bWEST-CREEa,bKWI,bWEST-CREEa,bKWII,bWEST-CREEa,bKWO,bWEST-CREEa,bKWOO",
    "bWEST-CREEa,bKWA,bWEST-CREEa,bKWAA,bWEST-CREEa,bNASKAPIa,bK,bKW,bSOUTH-SLAVEY KEH,cKIH,cKOH,cKAH,bCE,bCAAI,bCI",
    "bCII,bCO,bCOO,bY-CREEa,bCA,bCAA,bCWE,bWEST-CREEa,bCWI,bWEST-CREEa,bCWII,bWEST-CREEa,bCWO,bWEST-CREEa,bCWOO",
    "bWEST-CREEa,bCWA,bWEST-CREEa,bCWAA,bWEST-CREEa,bNASKAPIa,bC,bSAYISI TH,bME,bMAAI,bMI,bMII,bMO,bMOO,bY-CREEa,bMA",
    "bMAA,bMWE,bWEST-CREEa,bMWI,bWEST-CREEa,bMWII,bWEST-CREEa,bMWO,bWEST-CREEa,bMWOO,bWEST-CREEa,bMWA,bWEST-CREEa",
    "bMWAA,bWEST-CREEa,bNASKAPIa,bM,bWEST-CREEa,bMH,bATHAPASCAN M,bSAYISIa,bNE,bNAAI,bNI,bNII,bNO,bNOO,bY-CREEa,bNA",
    "bNAA,bNWE,bWEST-CREEa,bNWA,bWEST-CREEa,bNWAA,bWEST-CREEa,bNASKAPIa,bN,bCARRIER NG,bNH,bLE,bLAAI,bLI,bLII,bLO",
    "bLOO,bY-CREEa,bLA,bLAA,bLWE,bWEST-CREEa,bLWI,bWEST-CREEa,bLWII,bWEST-CREEa,bLWO,bWEST-CREEa,bLWOO,bWEST-CREEa",
    "bLWA,bWEST-CREEa,bLWAA,bWEST-CREEa,bL,bWEST-CREEa,bMEDIALa,bSE,bSAAI,bSI,bSII,bSO,bSOO,bY-CREEa,bSA,bSAA,bSWE",
    "bWEST-CREEa,bSWI,bWEST-CREEa,bSWII,bWEST-CREEa,bSWO,bWEST-CREEa,bSWOO,bWEST-CREEa"]),
  (0x1500, ["CANADIAN SYLLABICS SWA,bWEST-CREEa,bSWAA,bWEST-CREEa,bNASKAPIa,bS,bATHAPASCANa,bSW,bBLACKFOOT S",
    "bMOOSE-CREE SK,bNASKAPI SKW,cS-W,cSPWA,cSTWA,cSKWA,cSCWA,bSHE,bSHI,bSHII,bSHO,bSHOO,bSHA,bSHAA,bSHWE",
    "bWEST-CREEa,bSHWI,bWEST-CREEa,bSHWII,bWEST-CREEa,bSHWO,bWEST-CREEa,bSHWOO,bWEST-CREEa,bSHWA,bWEST-CREEa,bSHWAA",
    "bWEST-CREEa,bSH,bYE,bYAAI,bYI,bYII,bYO,bYOO,bY-CREEa,bYA,bYAA,bYWE,bWEST-CREEa,bYWI,bWEST-CREEa,bYWII",
    "bWEST-CREEa,bYWO,bWEST-CREEa,bYWOO,bWEST-CREEa,bYWA,bWEST-CREEa,bYWAA,bWEST-CREEa,bNASKAPIa,bY,bBIBLE-CREEa",
    "bWEST-CREEa,bSAYISI YI,bRE,bR-CREEa,bWEST-CREE LE,bRAAI,bRI,bRII,bRO,bROO,bWEST-CREE LO,bRA,bRAA,bWEST-CREE LA",
    "bRWAA,bWEST-CREEa,bR,bWEST-CREEa,bMEDIALa,bFE,bFAAI,bFI,bFII,bFO,bFOO,bFA,bFAA,bFWAA,bWEST-CREEa,bF,bTHE",
    "bN-CREEa,bTHI,bN-CREEa,bTHII,bN-CREEa,bTHO,bTHOO,bTHA,bTHAA,bTHWAA,bWEST-CREEa,bTH,bTTHE,bTTHI,bTTHO,bTTHA,bTTH",
    "bTYE,bTYI,bTYO,bTYA,bNUNAVIK HE,cHI,cHII,cHO,cHOO,cHA,cHAA,cH,bNUNAVUTa,bHK,bQAAI,bQI,bQII,bQO,bQOO,bQA,bQAA,bQ",
    "bTLHE,bTLHI,bTLHO,bTLHA,bWEST-CREE RE,cRI,cRO,cRA,bNGAAI,bNGI,bNGII,bNGO,bNGOO,bNGA,bNGAA,bNG,bNNG,bSAYISI SHE",
    "cSHI,cSHO,cSHA,bWOODS-CREE THE,cTHI,cTHO,cTHA,cTH,bLHI,bLHII,bLHO,bLHOO,bLHA,bLHAA,bLH,bTH-CREE THE,cTHI,cTHII",
    "cTHO,cTHOO,cTHA,cTHAA,cTH,bAIVILIK B,bBLACKFOOT E,cI,cO,cA,cWE,cWI,cWO,cWA,cNE,cNI,cNO,cNA,cKE,cKI,cKO,cKA",
    "bSAYISI HE,cHI,cHO,cHA,bCARRIER GHU,cGHO,cGHE,cGHEE,cGHI,cGHA,cRU,cRO,cRE,cREE,cRI,cRA,cWU,cWO,cWE,cWEE,cWI,cWA",
    "cHWU,cHWO,cHWE,cHWEE,cHWI,cHWA,cTHU,cTHO,cTHE,cTHEE,cTHI,cTHA,cTTU,cTTO,cTTE,cTTEE,cTTI,cTTA,cPU,cPO,cPE,cPEE",
    "cPI,cPA,cP,cGU,cGO,cGE,cGEE,cGI,cGA,cKHU,cKHO,cKHE,cKHEE,cKHI,cKHA,cKKU,cKKO,cKKE,cKKEE,cKKI"]),
  (0x1600, ["CANADIAN SYLLABICS CARRIER KKA,cKK,cNU,cNO,cNE,cNEE,cNI,cNA,cMU,cMO,cME,cMEE,cMI,cMA,cYU,cYO,cYE,cYEE",
    "cYI,cYA,cJU,bSAYISIa,bCARRIER JO,cJE,cJEE,cJI,bSAYISIa,bCARRIER JA,cJJU,cJJO,cJJE,cJJEE,cJJI,cJJA,cLU,cLO,cLE",
    "cLEE,cLI,cLA,cDLU,cDLO,cDLE,cDLEE,cDLI,cDLA,cLHU,cLHO,cLHE,cLHEE,cLHI,cLHA,cTLHU,cTLHO,cTLHE,cTLHEE,cTLHI,cTLHA",
    "cTLU,cTLO,cTLE,cTLEE,cTLI,cTLA,cZU,cZO,cZE,cZEE,cZI,cZA,cZ,cINITIALa,cDZU,cDZO,cDZE,cDZEE,cDZI,cDZA,cSU,cSO,cSE",
    "cSEE,cSI,cSA,cSHU,cSHO,cSHE,cSHEE,cSHI,cSHA,cSH,cTSU,cTSO,cTSE,cTSEE,cTSI,cTSA,cCHU,cCHO,cCHE,cCHEE,cCHI,cCHA",
    "cTTSU,cTTSO,cTTSE,cTTSEE,cTTSI,cTTSA,bCHI SIGN,bFULL STOP,bQAI,bNGAI,bNNGI,bNNGII,bNNGO,bNNGOO,bNNGA,bNNGAA",
    "bWOODS-CREE THWEE,cTHWI,cTHWII,cTHWO,cTHWOO,cTHWA,cTHWAA,cFINAL TH,bBLACKFOOT W,OGHAM SPACE MARK,aLETTER BEITH",
    "bLUIS,bFEARN,bSAIL,bNION,bUATH,bDAIR,bTINNE,bCOLL,bCEIRT,bMUIN,bGORT,bNGEADAL,bSTRAIF,bRUIS,bAILM,bONN,bUR",
    "bEADHADH,bIODHADH,bEABHADH,bOR,bUILLEANN,bIFIN,bEAMHANCHOLL,bPEITH,aFEATHER MARK,aREVERSEDb,,,",
    "RUNIC LETTER FEHU FEOH FE F,bV,bURUZ UR U,bYR,bY,bW,bTHURISAZ THURS THORN,bETH,bANSUZ A,bOS O,bAC A,bAESC",
    "bLONG-BRANCH-OSS O,bSHORT-TWIG-OSSa,bO,bOE,bON,bRAIDO RAD REID R,bKAUNA,bCEN,bKAUN K,bG,bENG,bGEBO GYFU G,bGAR",
    "bWUNJO WYNN W,bHAGLAZ H,bHAEGLa,bLONG-BRANCH-HAGALLa,bSHORT-TWIG-HAGALLa,bNAUDIZ NYD NAUD N,bSHORT-TWIG-NAUDa",
    "bDOTTED-N,bISAZ IS ISS I,bE,bJERAN J,bGER,bLONG-BRANCH-AR AE,bSHORT-TWIG-AR A,bIWAZ EOH,bPERTHO PEORTH P",
    "bALGIZ EOLHX,bSOWILO S,bSIGEL LONG-BRANCH-SOLa,bSHORT-TWIG-SOLa,bC,bZ,bTIWAZ TIR TYR T,bSHORT-TWIG-TYRa,bD",
    "bBERKANAN BEORC BJARKAN B,bSHORT-TWIG-BJARKANa,bDOTTED-P,bOPEN-P,bEHWAZ EH E,bMANNAZ MAN M,bLONG-BRANCH-MADRa",
    "bSHORT-TWIG-MADRa,bLAUKAZ LAGU LOGR L,bDOTTED-L,bINGWAZ,bING,bDAGAZ DAEG D,bOTHALAN ETHEL O,bEAR,bIOR,bCWEORTH",
    "bCALC,bCEALC,bSTAN,bLONG-BRANCH-YR,bSHORT-TWIG-YR,bICELANDIC-YR,bQ,bX,aSINGLE PUNCTUATION,aMULTIPLEa,aCROSSa",
    "aARLAUG SYMBOL,aTVIMADURa,aBELGTHORa,aLETTER K,bSH,bOO,bFRANKS CASKET OS,dIS,dEH,dAC,dAESC"]),
  (0x1700, ["TAGALOG LETTER A,bI,bU,bKA,bGA,bNGA,bTA,bDA,bNA,bPA,bBA,bMA,bYA,bRA,bLA,bWA,bSA,bHA,aVOWEL SIGN I,cU",
    "aSIGN VIRAMA,bPAMUDPOD"]),
  (0x171F, ["TAGALOG LETTER ARCHAIC RA,HANUNOO LETTER A,bI,bU,bKA,bGA,bNGA,bTA,bDA,bNA,bPA,bBA,bMA,bYA,bRA,bLA,bWA",
    "bSA,bHA,aVOWEL SIGN I,cU,aSIGN PAMUDPOD,PHILIPPINE SINGLE PUNCTUATION,aDOUBLEa"]),
  (0x1740, ["BUHID LETTER A,bI,bU,bKA,bGA,bNGA,bTA,bDA,bNA,bPA,bBA,bMA,bYA,bRA,bLA,bWA,bSA,bHA,aVOWEL SIGN I,cU"]),
  (0x1760, ["TAGBANWA LETTER A,bI,bU,bKA,bGA,bNGA,bTA,bDA,bNA,bPA,bBA,bMA,bYA,,bLA,bWA,bSA,,aVOWEL SIGN I,cU"]),
  (0x1780, ["KHMER LETTER KA,bKHA,bKO,bKHO,bNGO,bCA,bCHA,bCO,bCHO,bNYO,bDA,bTTHA,bDO,bTTHO,bNNO,bTA,bTHA,bTO,bTHO",
    "bNO,bBA,bPHA,bPO,bPHO,bMO,bYO,bRO,bLO,bVO,bSHA,bSSO,bSA,bHA,bLA,bQA,aINDEPENDENT VOWEL QAQ,cQAA,cQI,cQII,cQU",
    "cQUK,cQUU,cQUUV,cRY,cRYY,cLY,cLYY,cQE,cQAI,cQOO TYPE ONE,eTWO,cQAU,aVOWEL INHERENT AQ,cAA,bSIGNa,cI,cII,cY,cYY",
    "cU,cUU,cUA,cOE,cYA,cIE,cE,cAE,cAI,cOO,cAU,aSIGN NIKAHIT,bREAHMUK,bYUUKALEAPINTU,bMUUSIKATOAN,bTRIISAP,bBANTOC",
    "bROBAT,bTOANDAKHIAT,bKAKABAT,bAHSDA,bSAMYOK SANNYA,bVIRIAM,bCOENG,bBATHAMASAT,bKHAN,bBARIYOOSAN",
    "bCAMNUC PII KUUH,bLEK TOO,bBEYYAL,bPHNAEK MUAN,bKOOMUUT,aCURRENCY SYMBOL RIEL,aSIGN AVAKRAHASANYA,bATTHACAN,,",
    "aDIGIT ZERO,bONE,bTWO,bTHREE,bFOUR,bFIVE,bSIX,bSEVEN,bEIGHT,bNINE"]),
  (0x17F0, ["KHMER SYMBOL LEK ATTAK SON,dMUOY,dPII,dBEI,dBUON,dPRAM,dPRAM-MUOY,dPRAM-PII,dPRAM-BEI,dPRAM-BUON"]),
  (0x1800, ["MONGOLIAN BIRGA,aELLIPSIS,aCOMMA,aFULL STOP,aCOLON,aFOUR DOTS,aTODO SOFT HYPHEN",
    "aSIBE SYLLABLE BOUNDARY MARKER,aMANCHU COMMA,bFULL STOP,aNIRUGU,aFREE VARIATION SELECTOR ONE,dTWO,dTHREE",
    "aVOWEL SEPARATOR,aFREE VARIATION SELECTOR FOUR,aDIGIT ZERO,bONE,bTWO,bTHREE,bFOUR,bFIVE,bSIX,bSEVEN,bEIGHT",
    "bNINE"]),
  (0x1820, ["MONGOLIAN LETTER A,bE,bI,bO,bU,bOE,bUE,bEE,bNA,bANG,bBA,bPA,bQA,bGA,bMA,bLA,bSA,bSHA,bTA,bDA,bCHA,bJA",
    "bYA,bRA,bWA,bFA,bKA,bKHA,bTSA,bZA,bHAA,bZRA,bLHA,bZHI,bCHI,bTODO LONG VOWEL SIGN,cE,cI,cO,cU,cOE,cUE,cANG,cBA",
    "cPA,cQA,cGA,cMA,cTA,cDA,cCHA,cJA,cTSA,cYA,cWA,cKA,cGAA,cHAA,cJIA,cNIA,cDZA,bSIBE E,cI,cIY,cUE,cU,cANG,cKA,cGA",
    "cHA,cPA,cSHA,cTA,cDA,cJA,cFA,cGAA,cHAA,cTSA,cZA,cRAA,cCHA,cZHA,bMANCHU I,cKA,cRA,cFA,cZHA,bCHA WITH TWO DOTS"]),
  (0x1880, ["MONGOLIAN LETTER ALI GALI ANUSVARA ONE,dVISARGAa,dDAMARU,dUBADAMA,dINVERTEDa,dBALUDA,dTHREEa,dA,dI,dKA",
    "dNGA,dCA,dTTA,dTTHA,dDDA,dNNA,dTA,dDA,dPA,dPHA,dSSA,dZHA,dZA,dAH,bTODO ALI GALI TA,eZHA,bMANCHU ALI GALI GHA",
    "eNGA,eCA,eJHA,eTTA,eDDHA,eTA,eDHA,eSSA,eCYA,eZHA,eZA,bALI GALI HALF U,eYA,bMANCHU ALI GALI BHA",
    "bALI GALI DAGALGA,bMANCHU ALI GALI LHA"]),
  (0x18B0, ["CANADIAN SYLLABICS OY,bAY,bAAY,bWAY,bPOY,bPAY,bPWOY,bTAY,bKAY,bKWAY,bMAY,bNOY,bNAY,bLAY,bSOY,bSAY,bSHOY",
    "bSHAY,bSHWOY,bYOY,bYAY,bRAY,bNWI,bOJIBWAYa,bNWII,bOJIBWAYa,bNWO,bOJIBWAYa,bNWOO,bOJIBWAYa,bRWEE,bRWI,bRWII,bRWO",
    "bRWOO,bRWA,bOJIBWAY P,cT,cK,cC,cM,cN,cS,cSH,bEASTERN W,bWESTERNa,bFINAL SMALL RING,cRAISED DOT,bR-CREE RWE",
    "bWEST-CREE LOO,cLAA,bTHWE,bTHWA,bTTHWE,bTTHOO,bTTHAA,bTLHWE,bTLHOO,bSAYISI SHWE,cSHOO,cHOO,bCARRIER GWU",
    "cDENE GEE,cGAA,cGWA,bSAYISI JUU,bCARRIER JWA,bBEAVER DENE L,dR,bCARRIER DENTAL S"]),
  (0x1900, ["LIMBU VOWEL-CARRIER LETTER,aLETTER KA,bKHA,bGA,bGHA,bNGA,bCA,bCHA,bJA,bJHA,bYAN,bTA,bTHA,bDA,bDHA,bNA",
    "bPA,bPHA,bBA,bBHA,bMA,bYA,bRA,bLA,bWA,bSHA,bSSA,bSA,bHA,bGYAN,bTRA,,aVOWEL SIGN A,cI,cU,cEE,cAI,cOO,cAU,cE,cO",
    "aSUBJOINED LETTER YA,cRA,cWA"]),
  (0x1930, ["LIMBU SMALL LETTER KA,cNGA,cANUSVARA,cTA,cNA,cPA,cMA,cRA,cLA,aSIGN MUKPHRENG,bKEMPHRENG,bSA-I"]),
  (0x1940, ["LIMBU SIGN LOO,,,,aEXCLAMATION MARK,aQUESTIONa,aDIGIT ZERO,bONE,bTWO,bTHREE,bFOUR,bFIVE,bSIX,bSEVEN",
    "bEIGHT,bNINE,TAI LE LETTER KA,cXA,cNGA,cTSA,cSA,cYA,cTA,cTHA,cLA,cPA,cPHA,cMA,cFA,cVA,cHA,cQA,cKHA,cTSHA,cNA,cA",
    "cI,cEE,cEH,cU,cOO,cO,cUE,cE,cAUE,cAI,,,cTONE-2,cTONE-3,cTONE-4,cTONE-5,cTONE-6"]),
  (0x1980, ["NEW TAI LUE LETTER HIGH QA,dLOWa,dHIGH KA,eXA,eNGA,dLOW KA,eXA,eNGA,dHIGH TSA,eSA,eYA,dLOW TSA,eSA,eYA",
    "dHIGH TA,eTHA,eNA,dLOW TA,eTHA,eNA,dHIGH PA,ePHA,eMA,dLOW PA,ePHA,eMA,dHIGH FA,eVA,eLA,dLOW FA,eVA,eLA,dHIGH HA",
    "eDA,eBA,dLOW HA,eDA,eBA,dHIGH KVA,eXVA,dLOW KVA,eXVA,dHIGH SUA,dLOWa"]),
  (0x19B0, ["NEW TAI LUE VOWEL SIGN VOWEL SHORTENER,eAA,eII,eU,eUU,eE,eAE,eO,eOA,eUE,eAY,eAAY,eUY,eOY,eOAY,eUEY,eIY",
    "cLETTER FINAL V,eNG,eN,eM,eK,eD,eB,cTONE MARK-1,dMARK-2"]),
  (0x19D0, ["NEW TAI LUE DIGIT ZERO,dONE,dTWO,dTHREE,dFOUR,dFIVE,dSIX,dSEVEN,dEIGHT,dNINE,cTHAM DIGIT ONE,,,",
    "cSIGN LAE,dLAEV,KHMER SYMBOL PATHAMASAT,bMUOY KOET,bPIIa,bBEIa,bBUONa,bPRAMa,bPRAM-MUOYa,bPRAM-PIIa,bPRAM-BEIa",
    "bPRAM-BUONa,bDAPa,bDAP-MUOYa,bDAP-PIIa,bDAP-BEIa,bDAP-BUONa,bDAP-PRAMa,bTUTEYASAT,bMUOY ROC,bPIIa,bBEIa,bBUONa",
    "bPRAMa,bPRAM-MUOYa,bPRAM-PIIa,bPRAM-BEIa,bPRAM-BUONa,bDAPa,bDAP-MUOYa,bDAP-PIIa,bDAP-BEIa,bDAP-BUONa,bDAP-PRAMa"]),
  (0x1A00, ["BUGINESE LETTER KA,bGA,bNGA,bNGKA,bPA,bBA,bMA,bMPA,bTA,bDA,bNA,bNRA,bCA,bJA,bNYA,bNYCA,bYA,bRA,bLA,bVA",
    "bSA,bA,bHA,aVOWEL SIGN I,cU,cE,cO,cAE,,,aPALLAWA,aEND OF SECTION,TAI THAM LETTER HIGH KA,dKHA,dKXA,cLOW KA,dKXA",
    "dKHA,cNGA,cHIGH CA,dCHA,cLOW CA,dSA,dCHA,cNYA,cRATA,cHIGH RATHA,cDA,cLOW RATHA,cRANA,cHIGH TA,dTHA,cLOW TA,dTHA",
    "cNA,cBA,cHIGH PA,dPHA,dFA,cLOW PA,dFA,dPHA,cMA,cLOW YA,cHIGHa,cRA,cRUE,cLA,cLUE,cWA,cHIGH SHA,dSSA,dSA,dHA,cLLA",
    "cA,cLOW HA,cI,cII,cU,cUU,cEE,cOO,cLAE,cGREAT SA,bCONSONANT SIGN MEDIAL RA,eLA,dLA TANG LAI,bSIGN MAI KANGa",
    "bCONSONANT SIGN FINAL NGA,dLOW PA,dHIGH RATHA ORb,dMA,dBA,dSA,,bSIGN SAKOT,bVOWEL SIGN A,dMAI SAT,dAA,dTALLa,dI",
    "dII,dUE,dUUE,dU,dUU,dO,dOA BELOW,dOY,dE,dAE,dOO,dAI,dTHAMa,dOA ABOVE,bSIGN MAI KANG,cTONE-1,cTONE-2",
    "cKHUEN TONE-3,dTONE-4,dTONE-5,cRA HAAM,cMAI SAM,cKHUEN-LUE KARAN,,,bCOMBINING CRYPTOGRAMMIC DOT",
    "bHORA DIGIT ZERO,dONE,dTWO,dTHREE,dFOUR,dFIVE,dSIX,dSEVEN,dEIGHT,dNINE"]),
  (0x1A90, ["TAI THAM THAM DIGIT ZERO,dONE,dTWO,dTHREE,dFOUR,dFIVE,dSIX,dSEVEN,dEIGHT,dNINE"]),
  (0x1AA0, ["TAI THAM SIGN WIANG,cWIANGWAAK,cSAWAN,cKEOW,cHOY,cDOKMAI,cREVERSED ROTATED RANA,cMAI YAMOK,cKAAN",
    "cKAANKUU,cSATKAAN,cSATKAANKUU,cHANG,cCAANG,,,COMBINING DOUBLED CIRCUMFLEX ACCENT,aDIAERESIS-RING,aINFINITY",
    "aDOWNWARDS ARROW,aTRIPLE DOT,aX-X BELOW,aWIGGLY LINEa,aOPEN MARKa,aDOUBLEc,aLIGHT CENTRALIZATION STROKEa",
    "aSTRONGc,aPARENTHESES ABOVE,aDOUBLEb,aPARENTHESES BELOW,bOVERLAY,aLATIN SMALL LETTER W BELOW,dTURNEDb",
    "aLEFT PARENTHESIS ABOVE LEFT,aRIGHT PARENTHESIS ABOVE RIGHT,aLEFT PARENTHESIS BELOW LEFT",
    "aRIGHT PARENTHESIS BELOW RIGHT,aSQUARE BRACKETS ABOVE,aNUMBER SIGNa,aINVERTED DOUBLE ARCHa,aPLUS SIGNa,aDOUBLEc",
    "dBELOW,aTRIPLE ACUTE ACCENT,aLATIN SMALL LETTER INSULAR G,eR,eT"]),
  (0x1B00, ["BALINESE SIGN ULU RICEM,cCANDRA,bCECEK,bSURANG,bBISAH,aLETTER AKARA,cTEDUNG,bIKARA,cTEDUNG,bUKARA",
    "cTEDUNG,bRA REPA,dTEDUNG,bLA LENGA,dTEDUNG,bEKARA,bAIKARA,bOKARA,cTEDUNG,bKA,cMAHAPRANA,bGA,cGORA,bNGA,bCA",
    "cLACA,bJA,cJERA,bNYA,bTA LATIK,cMURDA MAHAPRANA,bDA MURDA ALPAPRANA,dMAHAPRANA,bNA RAMBAT,bTA,cTAWA,bDA,cMADU",
    "bNA,bPA,cKAPAL,bBA,cKEMBANG,bMA,bYA,bRA,bLA,bWA,bSA SAGA,cSAPA,c,bHA,aSIGN REREKAN,aVOWEL SIGN TEDUNG,cULU",
    "dSARI,cSUKU,dILUT,cRA REPA,eTEDUNG,cLA LENGA,eTEDUNG,cTALING,dREPA,dTEDUNG,dREPAa,cPEPET,dTEDUNG,aADEG ADEG",
    "aLETTER KAF SASAK,bKHOTa,bTZIRa,bEFa,bVEa,bZALa,bASYURAa,bARCHAIC JNYA,,,,aDIGIT ZERO,bONE,bTWO,bTHREE,bFOUR",
    "bFIVE,bSIX,bSEVEN,bEIGHT,bNINE,aPANTI,aPAMADA,aWINDU,aCARIK PAMUNGKAH,bSIKI,bPAREREN,aPAMENENG",
    "aMUSICAL SYMBOL DONG,cDENG,cDUNG,cDANG,dSURANG,cDING,cDAENG,cDEUNG,cDAING,cDANG GEDE,cCOMBINING TEGEH,dENDEP",
    "dKEMPUL,dKEMPLI,dJEGOGAN,dKEMPUL WITHa,dKEMPLIb,dBENDE,dGONG,cRIGHT-HAND OPEN DUG,eDAG,dCLOSED TUK,eTAK",
    "cLEFT-HAND OPEN PANG,ePUNG,dCLOSED PLAK,ePLUK,dOPEN PING,aPANTI LANTANG,aPAMADAa,,SUNDANESE SIGN PANYECEK",
    "bPANGLAYAR,bPANGWISAD,aLETTER A,bI,bU,bAE,bO,bE,bEU,bKA,bQA,bGA,bNGA,bCA,bJA,bZA,bNYA,bTA,bDA,bNA,bPA,bFA,bVA",
    "bBA,bMA,bYA,bRA,bLA,bWA,bSA,bXA,bHA,aCONSONANT SIGN PAMINGKAL,cPANYAKRA,cPANYIKU,aVOWEL SIGN PANGHULU,cPANYUKU",
    "cPANAELAENG,cPANOLONG,cPAMEPET,cPANEULEUNG,aSIGN PAMAAEH,bVIRAMA,aCONSONANT SIGN PASANGAN MA,dWA,aLETTER KHA",
    "bSYA,aDIGIT ZERO,bONE,bTWO,bTHREE,bFOUR,bFIVE,bSIX,bSEVEN,bEIGHT,bNINE,aAVAGRAHA,aLETTER REU,bLEU,bBHA,bFINAL K",
    "cM,BATAK LETTER A,bSIMALUNGUNa,bHA,bSIMALUNGUNa,bMANDAILINGa,bBA,bKAROa,bPA,bSIMALUNGUNa,bNA,bMANDAILINGa,bWA",
    "bSIMALUNGUNa,bPAKPAKa,bGA,bSIMALUNGUNa,bJA,bDA,bRA,bSIMALUNGUNa,bMA,bSIMALUNGUNa,bSOUTHERN TA,bNORTHERNa,bSA",
    "bSIMALUNGUNa,bMANDAILINGa,bYA,bSIMALUNGUNa,bNGA,bLA,bSIMALUNGUNa,bNYA,bCA,bNDA,bMBA,bI,bU,aSIGN TOMPI",
    "aVOWEL SIGN E,cPAKPAKa,cEE,cI,cKAROa,cO,cKAROa,cU,dFOR SIMALUNGUN SA,aCONSONANT SIGN NG,cH,aPANGOLAT",
    "aPANONGONAN"]),
  (0x1BFC, ["BATAK SYMBOL BINDU NA METEK,cPINARBORAS,cJUDUL,cPANGOLAT"]),
  (0x1C00, ["LEPCHA LETTER KA,bKLA,bKHA,bGA,bGLA,bNGA,bCA,bCHA,bJA,bNYA,bTA,bTHA,bDA,bNA,bPA,bPLA,bPHA,bFA,bFLA,bBA",
    "bBLA,bMA,bMLA,bTSA,bTSHA,bDZA,bYA,bRA,bLA,bHA,bHLA,bVA,bSA,bSHA,bWA,bA,aSUBJOINED LETTER YA,cRA,aVOWEL SIGN AA",
    "cI,cO,cOO,cU,cUU,cE,aCONSONANT SIGN K,cM,cL,cN,cP,cR,cT,cNYIN-DO,cKANG,aSIGN RAN,bNUKTA,,,,aPUNCTUATION TA-ROL",
    "bNYET THYOOMa,bCER-WA,bTSHOOKa,c,aDIGIT ZERO,bONE,bTWO,bTHREE,bFOUR,bFIVE,bSIX,bSEVEN,bEIGHT,bNINE,,,",
    "aLETTER TTA,bTTHA,bDDA,OL CHIKI DIGIT ZERO,cONE,cTWO,cTHREE,cFOUR,cFIVE,cSIX,cSEVEN,cEIGHT,cNINE,bLETTER LA,cAT",
    "cAG,cANG,cAL,cLAA,cAAK,cAAJ,cAAM,cAAW,cLI,cIS,cIH,cINY,cIR,cLU,cUC,cUD,cUNN,cUY,cLE,cEP,cEDD,cEN,cERR,cLO,cOTT",
    "cOB,cOV,cOH,bMU TTUDDAG,bGAAHLAA TTUDDAAG,bMU-GAAHLAAa,bRELAA,bPHAARKAA,bAHAD,bPUNCTUATION MUCAAD,cDOUBLEa",
    "CYRILLIC SMALL LETTER ROUNDED VE,cLONG-LEGGED DE,cNARROW O,cWIDE ES,cTALL TE,cTHREE-LEGGEDa,cTALL HARD SIGN",
    "dYAT,cUNBLENDED UK"]),
  (0x1C90, ["GEORGIAN MTAVRULI CAPITAL LETTER AN,dBAN,dGAN,dDON,dEN,dVIN,dZEN,dTAN,dIN,dKAN,dLAS,dMAN,dNAR,dON,dPAR",
    "dZHAR,dRAE,dSAN,dTAR,dUN,dPHAR,dKHAR,dGHAN,dQAR,dSHIN,dCHIN,dCAN,dJIL,dCIL,dCHAR,dXAN,dJHAN,dHAE,dHE,dHIE,dWE",
    "dHAR,dHOE,dFI,dYN,dELIFI,dTURNED GAN,dAIN,,,dAEN,dHARD SIGN,dLABIALa,SUNDANESE PUNCTUATION BINDU SURYA",
    "cPANGLONG,cPURNAMA,cCAKRA,cLEU SATANGA,cKAa,cDAa,cBAa"]),
  (0x1CD0, ["VEDIC TONE KARSHANA,bSHARA,bPRENKHA,aSIGN NIHSHVASA,bYAJURVEDIC MIDLINE SVARITA",
    "aTONE YAJURVEDIC AGGRAVATED INDEPENDENTa,cb,cKATHAKAb,bCANDRA BELOW",
    "bYAJURVEDIC KATHAKA INDEPENDENT SVARITA SCHROEDER,bDOUBLE SVARITA,bTRIPLEa,bKATHAKA ANUDATTA,bDOT BELOW",
    "bTWO DOTSa,bTHREEb,bRIGVEDIC KASHMIRI INDEPENDENT SVARITA,bATHARVAVEDICb,aSIGN VISARGAa,cUDATTA,bREVERSEDb",
    "bVISARGA ANUDATTA,bREVERSEDb,bVISARGA UDATTA WITH TAIL,cANUDATTAb,bANUSVARA ANTARGOMUKHA,cBAHIRGOMUKHA",
    "cVAMAGOMUKHA,dWITH TAIL,bTIRYAK,bHEXIFORM LONG ANUSVARA,bb,bRTHANGb,bANUSVARA UBHAYATO MUKHA,bARDHAVISARGA",
    "bROTATEDa,aTONE CANDRA ABOVE,aSIGN JIHVAMULIYA,bUPADHMANIYA,bATIKRAMA,aTONE RING ABOVE,bDOUBLEb",
    "aSIGN DOUBLE ANUSVARA ANTARGOMUKHA"]),
  (0x1D00, ["LATIN LETTER SMALL CAPITAL A,dAE,aSMALL LETTER TURNEDa,aLETTER SMALL CAPITAL BARRED B,dC,dD,dETH,dE",
    "aSMALL LETTER TURNED OPENa,dI,aLETTER SMALL CAPITAL J,dK,dL WITH STROKE,dM,dREVERSED N,dO,dOPENa",
    "aSMALL LETTER SIDEWAYSa,dOPENa,dO WITH STROKE,cTURNED OE,aLETTER SMALL CAPITAL OU,aSMALL LETTER TOP HALF O",
    "cBOTTOMb,aLETTER SMALL CAPITAL P,dREVERSED R,dTURNEDa,dT,dU,aSMALL LETTER SIDEWAYSa,dDIAERESIZEDa,dTURNED M",
    "aLETTER SMALL CAPITAL V,dW,dZ,dEZH,bVOICED LARYNGEAL SPIRANT,bAIN,GREEK LETTER SMALL CAPITAL GAMMA,dLAMDA,dPI",
    "dRHO,dPSI,CYRILLIC LETTER SMALL CAPITAL EL,MODIFIER LETTER CAPITAL A,cAE,cB,cBARREDa,cD,cE,cREVERSEDa,cG,cH,cI",
    "cJ,cK,cL,cM,cN,cREVERSEDa,cO,cOU,cP,cR,cT,cU,cW,bSMALL A,cTURNEDa,cALPHA,cTURNED AE,cB,cD,cE,cSCHWA,cOPEN E",
    "cTURNEDb,cG,cTURNED I,cK,cM,cENG,cO,cOPENa,cTOP HALFa,cBOTTOMb,cP,cT,cU,cSIDEWAYSa,cTURNED M,cV,cAIN,cBETA",
    "cGREEK GAMMA,cDELTA,cGREEK PHI,cCHI,LATIN SUBSCRIPT SMALL LETTER I,dR,dU,dV,GREEK SUBSCRIPT SMALL LETTER BETA",
    "dGAMMA,dRHO,dPHI,dCHI,LATIN SMALL LETTER UE,cB WITH MIDDLE TILDE,cDc,cFc,cMc,cNc,cPc,cRc,eFISHHOOK ANDb",
    "cS WITHb,cTc,cZc,cTURNED G,MODIFIER LETTER CYRILLIC EN,LATIN SMALL LETTER INSULAR G,cTH WITH STRIKETHROUGH",
    "bCAPITAL LETTER I WITH STROKE,bLETTER IOTAb,cPb,bCAPITAL LETTER Ub,bLETTER UPSILONb,cB WITH PALATAL HOOK,cDc",
    "cFc,cGc,cKc,cLc,cMc,cNc,cPc,cRc,cSc,cESHc,cVc,cXc,cZc,cA WITH RETROFLEXa,cALPHAc,cD WITH HOOK AND TAIL",
    "cE WITH RETROFLEX HOOK,cOPENd,cREVERSEDe,cSCHWAc,cIc,cOPEN Oc,cESHc,cUc,cEZHc",
    "MODIFIER LETTER SMALL TURNED ALPHA,cC,dWITH CURL,cETH,cREVERSED OPEN E,cF,cDOTLESS J WITH STROKE,cSCRIPT G",
    "cTURNED H,cI WITH STROKE,cIOTA,cCAPITAL I,eWITH STROKE,cJ WITH CROSSED-TAIL,cL WITH RETROFLEX HOOK,ePALATALa",
    "cCAPITAL L,cM WITH HOOK,cTURNED M WITH LONG LEG,cN WITH LEFT HOOK,eRETROFLEXa,cCAPITAL N,cBARRED O,cPHI",
    "cS WITH HOOK,cESH,cT WITH PALATAL HOOK,cU BAR,cUPSILON,cCAPITAL U,cV WITH HOOK,cTURNED V,cZ",
    "dWITH RETROFLEX HOOK,eCURL,cEZH,cTHETA,COMBINING DOTTED GRAVE ACCENT,bACUTEa,aSNAKE BELOW,aSUSPENSION MARK",
    "aMACRON-ACUTE,aGRAVE-MACRON,aMACRON-GRAVE,aACUTE-MACRON,aGRAVE-ACUTE-GRAVE,aACUTE-GRAVE-ACUTE",
    "aLATIN SMALL LETTER R BELOW,aBREVE-MACRON,aMACRON-BREVE,aDOUBLE CIRCUMFLEX ABOVE,aOGONEKa,aZIGZAG BELOW,aISa",
    "aUR ABOVE,aUSa,aLATIN SMALL LETTER FLATTENED OPEN Aa,dAE,dAO,dAV,dC CEDILLA,dINSULAR D,dETH,dG",
    "bLETTER SMALL CAPITALa,bSMALL LETTER K,dL,bLETTER SMALL CAPITALa,eM,bSMALL LETTER N,bLETTER SMALL CAPITALa,eR",
    "bSMALL LETTER R ROTUNDA,dS,dLONGa,dZ,dALPHA,dB,dBETA,dSCHWA,dF,dL WITH DOUBLE MIDDLE TILDE",
    "dO WITH LIGHT CENTRALIZATION STROKE,dP,dESH,dU WITH LIGHT CENTRALIZATION STROKE,dW,dA WITH DIAERESIS,dOb,dUb",
    "aUP TACK ABOVE,aKAVYKA ABOVE RIGHT,cLEFT,aDOTb,aWIDE INVERTED BRIDGE BELOW,aDOT BELOW LEFT,aDELETION MARK",
    "aDOUBLE INVERTED BREVE BELOW,aALMOST EQUAL TOa,aLEFT ARROWHEAD ABOVE,aRIGHT ARROWHEAD AND DOWN ARROWHEAD BELOW"]),
  (0x1E00, ["LATIN CAPITAL LETTER A WITH RING BELOW,aSMALLe,aCAPITAL LETTER B WITH DOT ABOVE,aSMALLe",
    "aCAPITAL LETTER B WITH DOT BELOW,aSMALLe,aCAPITAL LETTER B WITH LINEa,aSMALLe",
    "aCAPITAL LETTER C WITH CEDILLA AND ACUTE,aSMALLf,aCAPITAL LETTER D WITH DOT ABOVE,aSMALLe",
    "aCAPITAL LETTER D WITH DOT BELOW,aSMALLe,aCAPITAL LETTER D WITH LINEa,aSMALLe,aCAPITAL LETTER D WITH CEDILLA",
    "aSMALLd,aCAPITAL LETTER D WITH CIRCUMFLEX BELOW,aSMALLe,aCAPITAL LETTER E WITH MACRON AND GRAVE,aSMALLf",
    "aCAPITAL LETTER E WITH MACRON AND ACUTE,aSMALLf,aCAPITAL LETTER E WITH CIRCUMFLEX BELOW,aSMALLe",
    "aCAPITAL LETTER E WITH TILDEa,aSMALLe,aCAPITAL LETTER E WITH CEDILLA AND BREVE,aSMALLf",
    "aCAPITAL LETTER F WITH DOT ABOVE,aSMALLe,aCAPITAL LETTER G WITH MACRON,aSMALLd,aCAPITAL LETTER H WITH DOT ABOVE",
    "aSMALLe,aCAPITAL LETTER H WITH DOT BELOW,aSMALLe,aCAPITAL LETTER H WITH DIAERESIS,aSMALLd",
    "aCAPITAL LETTER H WITH CEDILLA,aSMALLd,aCAPITAL LETTER H WITH BREVE BELOW,aSMALLe,aCAPITAL LETTER I WITH TILDEa",
    "aSMALLe,aCAPITAL LETTER I WITH DIAERESIS AND ACUTE,aSMALLf,aCAPITAL LETTER K WITHa,aSMALLd",
    "aCAPITAL LETTER K WITH DOT BELOW,aSMALLe,aCAPITAL LETTER K WITH LINEa,aSMALLe,aCAPITAL LETTER L WITH DOTa",
    "aSMALLe,aCAPITAL LETTER L WITH DOT BELOW AND MACRON,aSMALLg,aCAPITAL LETTER L WITH LINE BELOW,aSMALLe",
    "aCAPITAL LETTER L WITH CIRCUMFLEXa,aSMALLe,aCAPITAL LETTER M WITH ACUTE,aSMALLd",
    "aCAPITAL LETTER M WITH DOT ABOVE,aSMALLe,aCAPITAL LETTER M WITH DOT BELOW,aSMALLe",
    "aCAPITAL LETTER N WITH DOT ABOVE,aSMALLe,aCAPITAL LETTER N WITH DOT BELOW,aSMALLe,aCAPITAL LETTER N WITH LINEa",
    "aSMALLe,aCAPITAL LETTER N WITH CIRCUMFLEXa,aSMALLe,aCAPITAL LETTER O WITH TILDE AND ACUTE,aSMALLf",
    "aCAPITAL LETTER O WITH TILDE AND DIAERESIS,aSMALLf,aCAPITAL LETTER O WITH MACRON AND GRAVE,aSMALLf",
    "aCAPITAL LETTER O WITH MACRON AND ACUTE,aSMALLf,aCAPITAL LETTER P WITHa,aSMALLd",
    "aCAPITAL LETTER P WITH DOT ABOVE,aSMALLe,aCAPITAL LETTER Rc,aSMALLe,aCAPITAL LETTER R WITH DOT BELOW,aSMALLe",
    "aCAPITAL LETTER R WITH DOT BELOW AND MACRON,aSMALLg,aCAPITAL LETTER R WITH LINE BELOW,aSMALLe",
    "aCAPITAL LETTER S WITH DOT ABOVE,aSMALLe,aCAPITAL LETTER S WITH DOT BELOW,aSMALLe",
    "aCAPITAL LETTER S WITH ACUTE AND DOT ABOVE,aSMALLg,aCAPITAL LETTER S WITH CARONc,aSMALLg",
    "aCAPITAL LETTER S WITH DOT BELOWc,aSMALLh,aCAPITAL LETTER T WITHb,aSMALLe,aCAPITAL LETTER T WITH DOT BELOW",
    "aSMALLe,aCAPITAL LETTER T WITH LINEa,aSMALLe,aCAPITAL LETTER T WITH CIRCUMFLEXa,aSMALLe",
    "aCAPITAL LETTER U WITH DIAERESISa,aSMALLe,aCAPITAL LETTER U WITH TILDEa,aSMALLe",
    "aCAPITAL LETTER U WITH CIRCUMFLEXa,aSMALLe,aCAPITAL LETTER U WITH TILDE AND ACUTE,aSMALLf",
    "aCAPITAL LETTER U WITH MACRON AND DIAERESIS,aSMALLf,aCAPITAL LETTER V WITH TILDE,aSMALLd",
    "aCAPITAL LETTER V WITH DOT BELOW,aSMALLe,aCAPITAL LETTER W WITH GRAVE,aSMALLd,aCAPITAL LETTER W WITH ACUTE",
    "aSMALLd,aCAPITAL LETTER W WITH DIAERESIS,aSMALLd,aCAPITAL LETTER W WITH DOT ABOVE,aSMALLe",
    "aCAPITAL LETTER W WITH DOT BELOW,aSMALLe,aCAPITAL LETTER X WITH DOT ABOVE,aSMALLe",
    "aCAPITAL LETTER X WITH DIAERESIS,aSMALLd,aCAPITAL LETTER Y WITH DOT ABOVE,aSMALLe",
    "aCAPITAL LETTER Z WITH CIRCUMFLEX,aSMALLd,aCAPITAL LETTER Z WITH DOT BELOW,aSMALLe,aCAPITAL LETTER Z WITH LINEa",
    "aSMALLe,cHc,cT WITH DIAERESIS,cW WITH RING ABOVE,cYc,cA WITH RIGHT HALF RING,cLONG S WITH DOT ABOVE",
    "fDIAGONAL STROKE,fHIGHa,aCAPITAL LETTER SHARP S,aSMALL LETTER DELTA,aCAPITAL LETTER A WITH DOT BELOW,aSMALLe",
    "aCAPITAL LETTER A WITH HOOK ABOVE,aSMALLe,aCAPITAL LETTER A WITH CIRCUMFLEX AND ACUTE,aSMALLf",
    "aCAPITAL LETTER A WITH CIRCUMFLEX AND GRAVE,aSMALLf,aCAPITAL LETTER A WITH CIRCUMFLEX AND HOOK ABOVE,aSMALLg",
    "aCAPITAL LETTER A WITH CIRCUMFLEX AND TILDE,aSMALLf,aCAPITAL LETTER A WITH CIRCUMFLEX AND DOT BELOW,aSMALLg",
    "aCAPITAL LETTER A WITH BREVE AND ACUTE,aSMALLf,aCAPITAL LETTER A WITH BREVE AND GRAVE,aSMALLf",
    "aCAPITAL LETTER A WITH BREVE AND HOOK ABOVE,aSMALLg,aCAPITAL LETTER A WITH BREVE AND TILDE,aSMALLf",
    "aCAPITAL LETTER A WITH BREVE AND DOT BELOW,aSMALLg,aCAPITAL LETTER E WITHb,aSMALLe",
    "aCAPITAL LETTER E WITH HOOK ABOVE,aSMALLe,aCAPITAL LETTER E WITH TILDE,aSMALLd",
    "aCAPITAL LETTER E WITH CIRCUMFLEX AND ACUTE,aSMALLf,aCAPITAL LETTER E WITH CIRCUMFLEX AND GRAVE,aSMALLf",
    "aCAPITAL LETTER E WITH CIRCUMFLEX AND HOOK ABOVE,aSMALLg,aCAPITAL LETTER E WITH CIRCUMFLEX AND TILDE,aSMALLf",
    "aCAPITAL LETTER E WITH CIRCUMFLEX AND DOT BELOW,aSMALLg,aCAPITAL LETTER I WITH HOOK ABOVE,aSMALLe",
    "aCAPITAL LETTER I WITH DOT BELOW,aSMALLe,aCAPITAL LETTER Oc,aSMALLe,aCAPITAL LETTER O WITH HOOK ABOVE,aSMALLe",
    "aCAPITAL LETTER O WITH CIRCUMFLEX AND ACUTE,aSMALLf,aCAPITAL LETTER O WITH CIRCUMFLEX AND GRAVE,aSMALLf",
    "aCAPITAL LETTER O WITH CIRCUMFLEX AND HOOK ABOVE,aSMALLg,aCAPITAL LETTER O WITH CIRCUMFLEX AND TILDE,aSMALLf",
    "aCAPITAL LETTER O WITH CIRCUMFLEX AND DOT BELOW,aSMALLg,aCAPITAL LETTER O WITH HORN AND ACUTE,aSMALLf",
    "aCAPITAL LETTER O WITH HORN AND GRAVE,aSMALLf,aCAPITAL LETTER O WITH HORN AND HOOK ABOVE,aSMALLg",
    "aCAPITAL LETTER O WITH HORN AND TILDE,aSMALLf,aCAPITAL LETTER O WITH HORN AND DOT BELOW,aSMALLg",
    "aCAPITAL LETTER U WITHb,aSMALLe,aCAPITAL LETTER U WITH HOOK ABOVE,aSMALLe,aCAPITAL LETTER U WITH HORN AND ACUTE",
    "aSMALLf,aCAPITAL LETTER U WITH HORN AND GRAVE,aSMALLf,aCAPITAL LETTER U WITH HORN AND HOOK ABOVE,aSMALLg",
    "aCAPITAL LETTER U WITH HORN AND TILDE,aSMALLf,aCAPITAL LETTER U WITH HORN AND DOT BELOW,aSMALLg",
    "aCAPITAL LETTER Y WITH GRAVE,aSMALLd,aCAPITAL LETTER Y WITH DOT BELOW,aSMALLe,aCAPITAL LETTER Y WITH HOOK ABOVE",
    "aSMALLe,aCAPITAL LETTER Y WITH TILDE,aSMALLd,aCAPITAL LETTER MIDDLE-WELSH LL,aSMALLc",
    "aCAPITAL LETTER MIDDLE-WELSH V,aSMALLc,aCAPITAL LETTER Y WITH LOOP,aSMALLd"]),
  (0x1F00, ["GREEK SMALL LETTER ALPHA WITH PSILI,eDASIA,ePSILI AND VARIA,eDASIAb,ePSILI AND OXIA,eDASIAb",
    "ePSILI AND PERISPOMENI,eDASIAb,aCAPITAL LETTER ALPHA WITH PSILI,eDASIA,ePSILI AND VARIA,eDASIAb,ePSILI AND OXIA",
    "eDASIAb,ePSILI AND PERISPOMENI,eDASIAb,aSMALL LETTER EPSILON WITH PSILI,eDASIA,ePSILI AND VARIA,eDASIAb",
    "ePSILI AND OXIA,eDASIAb,,,aCAPITAL LETTER EPSILON WITH PSILI,eDASIA,ePSILI AND VARIA,eDASIAb,ePSILI AND OXIA",
    "eDASIAb,,,aSMALL LETTER ETA WITH PSILI,eDASIA,ePSILI AND VARIA,eDASIAb,ePSILI AND OXIA,eDASIAb",
    "ePSILI AND PERISPOMENI,eDASIAb,aCAPITAL LETTER ETA WITH PSILI,eDASIA,ePSILI AND VARIA,eDASIAb,ePSILI AND OXIA",
    "eDASIAb,ePSILI AND PERISPOMENI,eDASIAb,aSMALL LETTER IOTA WITH PSILI,eDASIA,ePSILI AND VARIA,eDASIAb",
    "ePSILI AND OXIA,eDASIAb,ePSILI AND PERISPOMENI,eDASIAb,aCAPITAL LETTER IOTA WITH PSILI,eDASIA,ePSILI AND VARIA",
    "eDASIAb,ePSILI AND OXIA,eDASIAb,ePSILI AND PERISPOMENI,eDASIAb,aSMALL LETTER OMICRON WITH PSILI,eDASIA",
    "ePSILI AND VARIA,eDASIAb,ePSILI AND OXIA,eDASIAb,,,aCAPITAL LETTER OMICRON WITH PSILI,eDASIA,ePSILI AND VARIA",
    "eDASIAb,ePSILI AND OXIA,eDASIAb,,,aSMALL LETTER UPSILON WITH PSILI,eDASIA,ePSILI AND VARIA,eDASIAb",
    "ePSILI AND OXIA,eDASIAb,ePSILI AND PERISPOMENI,eDASIAb,,aCAPITAL LETTER UPSILON WITH DASIA,,fAND VARIA,,gOXIA,",
    "gPERISPOMENI,aSMALL LETTER OMEGA WITH PSILI,eDASIA,ePSILI AND VARIA,eDASIAb,ePSILI AND OXIA,eDASIAb",
    "ePSILI AND PERISPOMENI,eDASIAb,aCAPITAL LETTER OMEGA WITH PSILI,eDASIA,ePSILI AND VARIA,eDASIAb,ePSILI AND OXIA",
    "eDASIAb,ePSILI AND PERISPOMENI,eDASIAb,aSMALL LETTER ALPHA WITH VARIA,eOXIA,cEPSILON WITH VARIA,eOXIA",
    "cETA WITH VARIA,eOXIA,cIOTA WITH VARIA,eOXIA,cOMICRON WITH VARIA,eOXIA,cUPSILON WITH VARIA,eOXIA",
    "cOMEGA WITH VARIA,eOXIA,,,cALPHA WITH PSILI AND YPOGEGRAMMENI,eDASIAb,ePSILI AND VARIAb,eDASIAd",
    "ePSILI AND OXIAb,eDASIAd,ePSILI AND PERISPOMENIb,eDASIAd,aCAPITAL LETTER ALPHA WITH PSILI AND PROSGEGRAMMENI",
    "eDASIAb,ePSILI AND VARIAb,eDASIAd,ePSILI AND OXIAb,eDASIAd,ePSILI AND PERISPOMENIb,eDASIAd",
    "aSMALL LETTER ETA WITH PSILI AND YPOGEGRAMMENI,eDASIAb,ePSILI AND VARIAb,eDASIAd,ePSILI AND OXIAb,eDASIAd",
    "ePSILI AND PERISPOMENIb,eDASIAd,aCAPITAL LETTER ETA WITH PSILI AND PROSGEGRAMMENI,eDASIAb,ePSILI AND VARIAb",
    "eDASIAd,ePSILI AND OXIAb,eDASIAd,ePSILI AND PERISPOMENIb,eDASIAd",
    "aSMALL LETTER OMEGA WITH PSILI AND YPOGEGRAMMENI,eDASIAb,ePSILI AND VARIAb,eDASIAd,ePSILI AND OXIAb,eDASIAd",
    "ePSILI AND PERISPOMENIb,eDASIAd,aCAPITAL LETTER OMEGA WITH PSILI AND PROSGEGRAMMENI,eDASIAb,ePSILI AND VARIAb",
    "eDASIAd,ePSILI AND OXIAb,eDASIAd,ePSILI AND PERISPOMENIb,eDASIAd,aSMALL LETTER ALPHA WITH VRACHY,eMACRON",
    "eVARIA AND YPOGEGRAMMENI,ea,eOXIA ANDa,,ePERISPOMENI,fAND YPOGEGRAMMENI,aCAPITAL LETTER ALPHA WITH VRACHY",
    "eMACRON,eVARIA,eOXIA,ePROSGEGRAMMENI,aKORONIS,aPROSGEGRAMMENI,aPSILI,aPERISPOMENI,aDIALYTIKA ANDa",
    "aSMALL LETTER ETA WITH VARIA AND YPOGEGRAMMENI,ea,eOXIA ANDa,,ePERISPOMENI,fAND YPOGEGRAMMENI",
    "aCAPITAL LETTER EPSILON WITH VARIA,eOXIA,cETA WITH VARIA,eOXIA,ePROSGEGRAMMENI,aPSILI AND VARIA,cOXIA",
    "cPERISPOMENI,aSMALL LETTER IOTA WITH VRACHY,eMACRON,eDIALYTIKA AND VARIA,gOXIA,,,ePERISPOMENI,eDIALYTIKA ANDa",
    "aCAPITAL LETTER IOTA WITH VRACHY,eMACRON,eVARIA,eOXIA,,aDASIA AND VARIA,cOXIA,cPERISPOMENI",
    "aSMALL LETTER UPSILON WITH VRACHY,eMACRON,eDIALYTIKA AND VARIA,gOXIA,cRHO WITH PSILI,eDASIA",
    "cUPSILON WITH PERISPOMENI,eDIALYTIKA ANDa,aCAPITAL LETTER UPSILON WITH VRACHY,eMACRON,eVARIA,eOXIA",
    "cRHO WITH DASIA,aDIALYTIKA AND VARIA,cOXIA,aVARIA,,,aSMALL LETTER OMEGA WITH VARIA AND YPOGEGRAMMENI,ea",
    "eOXIA ANDa,,ePERISPOMENI,fAND YPOGEGRAMMENI,aCAPITAL LETTER OMICRON WITH VARIA,eOXIA,cOMEGA WITH VARIA,eOXIA",
    "ePROSGEGRAMMENI,aOXIA,aDASIA"])]

end TagRules.CharacterName
