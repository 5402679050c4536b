/-!
Names of the signs of wedge writing, of hieroglyphs, and of other large scripts.
-/
namespace TagRules.CharacterName

/-- Rows of names, each with the code of its first name. -/
def hieroglyphs : List (Nat × List String) := [
  (0x12000, ["CUNEIFORM SIGN A,cTIMES A,dBAD,dGAN2 TENU,dHA,dIGI,dLAGAR GUNU,dMUSH,dSAG,bA2,bAB,cTIMES ASH2",
    "dDUN3 GUNU,dGAL,dGAN2 TENU,dHA,dIGI GUNU,dIMIN,dLAGAB,dSHESH,dU PLUS U PLUS U,cGUNU,bAB2,cTIMES BALAG",
    "dGAN2 TENU,dME PLUS EN,dSHA3,dTAK4,bAD,bAK,cTIMES ERIN2,dSHITA PLUS GISH,bAL,cTIMES AL,dDIM2,dGISH,dHA,dKAD3",
    "dKI,dSHE,dUSH,bALAN,bALEPH,bAMAR,cTIMES SHE,bAN,cOVER AN,cTHREE TIMES,cPLUS NAGA OPPOSING AN PLUS NAGA,eSQUARED",
    "bANSHE,bAPIN,bARAD,cTIMES KUR,bARKAB,bASAL2,bASH,cZIDA TENU,cKABAa,cOVER ASH TUG2 OVER TUG2 TUG2 OVER TUG2 PAP",
    "eOVER ASH,gCROSSING ASH OVER ASH OVER ASH,bASH2,bASHGAB,bBA,bBAD,bBAG3,bBAHAR2,bBAL,cOVER BAL,bBALAG,bBAR",
    "bBARA2,bBI,cTIMES A,dGAR,dIGI GUNU,bBU,cOVER BU AB,eUN,cCROSSING BU,bBULUG,cOVER BULUG,bBUR,bBUR2,bDA,bDAG",
    "cKISIM5 TIMES A PLUS MASH,eAMAR,eBALAG,eBI,eGA,fPLUS MASH,eGI,eGIR2,eGUD,eHA,eIR,fPLUS LU,eKAK,eLA,eLU",
    "fPLUS MASH2,eLUM,eNE,ePAP PLUS PAP,eSI,eTAK4,eU2 PLUS GIR2,eUSH,bDAM,bDAR,bDARA3,bDARA4,bDI,bDIB,bDIM",
    "cTIMES SHE,bDIM2,bDIN,cKASKAL U GUNU DISH,ba,bDU,cOVER DU,cGUNU,cSHESHIG,bDUB,cTIMES ESH2,bDUB2,bDUG,bDUGUD",
    "bDUH,bDUN,bDUN3,cGUNU,dGUNU,bDUN4,bDUR2,bE,cTIMES PAP,cOVER E NUN OVER NUN,bE2,cTIMES A PLUS HA PLUS DA,dGAR",
    "dMI,dSAL,dSHE,dU,bEDIN,bEGIR,bEL,bEN,cTIMES GAN2,eTENU,dME,cCROSSING EN,cOPPOSINGa,cSQUARED,bEREN,bERIN2,bESH2",
    "bEZEN,cTIMES A,ePLUS LAL,gTIMES LAL,dAN,dBAD,dDUN3 GUNU,fGUNU,dHA,eGUNU,dIGIa,dKASKAL,eSQUARED,dKU3,dLA",
    "dLAL TIMES LAL,dLI,dLU,dU2,dUD,bGA,cGUNU,bGA2,cTIMES A PLUS DA PLUS HA,eb,fIGI,dAB2 TENU PLUS TAB,dAN,dASH",
    "dASH2 PLUS GAL,dBAD,dBAR PLUS RA,dBUR,ePLUS RA,dDA,dDI,dDIM TIMES SHE,dDUB,dEL,ePLUS LA,dEN,eTIMES GAN2 TENU,cc",
    "dGAR,dGI,dGI4,ePLUS A,dGIR2 PLUS SU,dHA PLUS LU PLUS ESH2,dHAL,ePLUS LA,dHI PLUS LI,dHUB2,dIGI GUNU",
    "dISH PLUS HU PLUS ASH,dKAK,dKASKAL,dKID,ePLUS LAL,dKU3 PLUS AN,dLA,dME PLUS EN,dMI,dNUN,eOVER NUN,dPA,dSAL,dSAR",
    "dSHE,ePLUS TUR,dSHID,dSUM,dTAK4,dU,dUD,ePLUS DU,cOVER GA2,bGABA,cCROSSING GABA,bGAD,cOVER GAD GAR OVER GAR,bGAL",
    "cGAD OVER GAD GAR OVER GAR,bGALAM,bGAM,bGAN,bGAN2,cTENU,cOVER GAN2,cCROSSINGa,bGAR,bGAR3,bGASHAN,bGESHTIN",
    "cTIMES KUR"]),
  (0x12100, ["CUNEIFORM SIGN GI,cTIMES E,dU,cCROSSING GI,bGI4,cOVER GI4,cCROSSINGa,bGIDIM,bGIR2,cGUNU,bGIR3",
    "cTIMES A PLUS IGI,dGAN2 TENU,dIGI,dLU PLUSa,dPA,bGISAL,bGISH,cCROSSING GISH,cTIMES BAD,dTAK4,cTENU,bGU",
    "cCROSSING GU,bGU2,cTIMES KAK,eTIMES IGI GUNU,dNUN,dSAL PLUS TUG2,cGUNU,bGUD,cTIMES A PLUS KUR,da",
    "cOVER GUD LUGAL,bGUL,bGUM,cTIMES SHE,bGUR,bGUR7,bGURUN,bGURUSH,bHA,cTENU,cGUNU,bHAL,bHI,cTIMES ASH,dASH2,dBAD",
    "dDISH,dGAD,dKIN,dNUN,dSHE,dU,bHU,bHUB2,cTIMES AN,dHAL,dKASKAL,dLISH,dUD,bHUL2,bI,cA,bIB,bIDIM,cOVER IDIM BUR",
    "eSQUARED,bIG,bIGI,cDIB,cRI,cOVER IGI SHIR OVER SHIR UD OVER UD,cGUNU,bIL,cTIMES GAN2 TENU,bIL2,bIM,cTIMES TAK4",
    "cCROSSING IM,cOPPOSINGa,cSQUARED,bIMIN,bIN,bIR,bISH,bKA,cTIMES A,dAD,ePLUS KU3,dASH2,dBAD,dBALAG,dBAR,dBI",
    "dERIN2,dESH2,dGA,dGAL,dGAN2 TENU,dGAR,ePLUS SHA3 PLUS A,dGI,dGIR2,dGISH PLUS SAR,eCROSSING GISH,dGU,dGUR7,dIGI",
    "dIM,dKAK,dKI,dKID,dLI,dLU,dME,ePLUS DU,fGI,fTE,dMI,ePLUS NUNUZ,dNE,dNUN,dPI,dRU,dSA,dSAR,dSHA,dSHE,dSHID,dSHU",
    "dSIG,dSUHUR,dTAR,dU,dU2,dUD,dUMUM TIMES PA,dUSH,dZI,bKA2,cCROSSING KA2,bKAB,bKAD2,bKAD3,bKAD4,bKAD5,cOVER KAD5",
    "bKAK,cTIMES IGI GUNU,bKAL,cTIMES BAD,cCROSSING KAL,bKAM2,bKAM4,bKASKAL,cLAGAB TIMES U OVER LAGAB TIMES U",
    "bKASKAL OVERh,bKESH2,bKI,cTIMES BAD,dU,dUD,bKID,bKIN,bKISAL,bKISH,bKISIM5,cOVER KISIM5,bKU",
    "cOVER HI TIMES ASH2 KU OVER HI TIMES ASH2,bKU3,bKU4,cVARIANT FORM,bKU7,bKUL,cGUNU,bKUN,bKUR,cOPPOSING KUR",
    "bKUSHU2,bKWU318,bLA,bLAGAB,cTIMES A,ePLUS DA PLUS HA,fGAR,fLAL,dAL,dAN,dASH ZIDA TENU,dBAD,dBI,dDAR,dEN,dGA",
    "dGAR,dGUD,ePLUS GUD,dHA,dHAL,dHI TIMES NUN,dIGI GUNU,dIM,ePLUS HA,fLU,dKI,dKIN,dKU3,dKUL,ePLUS HI PLUS A,dLAGAB",
    "dLISH,dLU,dLUL,dME,ePLUS EN,dMUSH,dNE,dSHE PLUS SUM,dSHITA PLUS GISH PLUS ERIN2,gTENU,dSHU2,ePLUS SHU2,dSUM",
    "dTAG,dTAK4,dTE PLUS A PLUS SU PLUS NA,dU,ePLUS A,fU PLUS U,dU2 PLUS ASH,dUD,dUSH,cSQUARED,bLAGAR,cTIMES SHE",
    "ePLUS SUM,cGUNU,dOVER LAGAR GUNU SHE,bLAHSHU,bLAL,cTIMES LAL,bLAM,cTIMES KUR,ePLUS RU,bLI,bLIL,bLIMMU2,bLISH",
    "bLU,cTIMES BAD,bLU2,cTIMES AL,dBAD"]),
  (0x12200, ["CUNEIFORM SIGN LU2 TIMES ESH2,eTENU,dGAN2a,dHI TIMES BAD,dIM,dKAD2,dKAD3,ePLUS ASH,dKI,dLA PLUS ASH",
    "dLAGAB,dME PLUS EN,dNE,dNU,dSI PLUS ASH,dSIK2 PLUS BU,dTUG2,cTENU,cCROSSING LU2,cOPPOSINGa,cSQUARED,cSHESHIG",
    "bLU3,bLUGAL,cOVER LUGAL,cOPPOSINGa,cSHESHIG,bLUH,bLUL,bLUM,cOVER LUM,eGAR OVER GAR,bMA,cTIMES TAK4,cGUNU,bMA2",
    "bMAH,bMAR,bMASH,bMASH2,bME,bMES,bMI,bMIN,bMU,cOVER MU,bMUG,cGUNU,bMUNSUB,bMURGU2,bMUSH,cTIMES A,dKUR,dZA",
    "cOVER MUSH,eTIMES A PLUS NA,cCROSSING MUSH,bMUSH3,cTIMES A,ePLUS DI,da,cGUNU,bNA,bNA2,bNAGA,cINVERTED",
    "cTIMES SHU TENU,cOPPOSING NAGA,bNAGAR,bNAM NUTILLU,c,bNAM2,bNE,cTIMES A,dUD,cSHESHIG,bNI,cTIMES E,bNI2,bNIM",
    "cTIMES GAN2 TENU,dGAR PLUSb,bNINDA2,cTIMES AN,dASH,ePLUS ASH,dGUD,dME PLUS GAN2 TENU,dNE,dNUN,dSHE,ePLUS A AN",
    "fASH,gPLUS ASH,dU2b,dUSH,bNISAG,bNU,bNU11,bNUN,cLAGAR TIMES GAR,eMASH,eSAL,fOVER NUN LAGAR TIMES SAL,eUSH,cTENU",
    "cOVER NUN,cCROSSINGa,eLAGAR OVER LAGAR,bNUNUZ,cAB2 TIMES ASHGAB,eBI,eDUG,eGUD,eIGI GUNU,eKAD3,eLA,eNE,eSILA3",
    "eU2,cKISIM5 TIMES BI,fU,bPA,bPAD,bPAN,bPAP,bPESH2,bPI,cTIMES A,dAB,dBI,dBU,dE,dI,dIB,dU,dU2,cCROSSING PI,bPIRIG",
    "cTIMES KAL,dUD,dZA,cOPPOSING PIRIG,bRA,bRAB,bRI,bRU,bSA,bSAG NUTILLU,c,cTIMES A,dDU,dDUB,dHA,dKAK,dKUR,dLUM,dMI",
    "dNUN,dSAL,dSHID,dTAB,dU2,dUB,dUM,dUR,dUSH,cOVER SAG,cGUNU,bSAL,cLAGAB TIMES ASH2,bSANGA2,bSAR,bSHA,bSHA3",
    "cTIMES A,dBAD,dGISH,dNE,dSHU2,dTUR,dU,ePLUS A,bSHA6,bSHAB6,bSHAR2,bSHE,cHU,cOVER SHE GAD OVER GAD GAR OVER GAR",
    "eTAB OVER TABc,bSHEG9,bSHEN,bSHESH,bSHESH2,bSHESHLAM,bSHID,cTIMES A,dIM,bSHIM,cTIMES A,dBAL,dBULUG,dDIN,dGAR",
    "dIGI,eGUNU,dKUSHU2,dLUL,dMUG,dSAL,bSHINIG,bSHIR,cTENU,cOVER SHIR BUR OVER BUR,bSHITA,bSHU,cOVER INVERTED SHU",
    "bSHU2,bSHUBUR,bSI,cGUNU,bSIG,bSIG4,cOVER SIG4 SHU2,bSIK2,bSILA3,bSU,cOVER SU,bSUD,bSUD2,bSUHUR,bSUM,bSUMASH",
    "bSUR,bSUR9,bTA,cASTERISK,cTIMES HI,dMI,cGUNU,bTAB,cOVER TAB NI OVER NI DISH OVER DISH,cSQUARED,bTAG,cTIMES BI",
    "dGUD,dSHE,dSHU,dTUG2,dUD,bTAK4,bTAR,bTE,cGUNU,bTI,cTENU"]),
  (0x12300, ["CUNEIFORM SIGN TIL,bTIR,cTIMES TAK4,cOVER TIR,eGAD OVER GAD GAR OVER GAR,bTU,bTUG2,bTUK,bTUM,bTUR",
    "cOVER TUR ZA OVER ZA,bU,cGUD,cU U,cOVER U PA OVER PA GAR OVER GAR,eSUR OVER SUR,eU REVERSED OVER U REVERSED,bU2",
    "bUB,bUD,cKUSHU2,cTIMES BAD,dMI,dU PLUS U PLUS U,iGUNU,ca,cSHESHIG,dTIMES BAD,bUDUG,bUM,cTIMES LAGAB,dME PLUS DA",
    "dSHA3,dU,bUMBIN,bUMUM,cTIMES KASKAL,dPA,bUN,cGUNU,bUR,cCROSSING UR,cSHESHIG,bUR2,cTIMES A PLUS HA,fNA,dAL,dHA",
    "dNUN,dU2,ePLUS ASH,fBI,bUR4,bURI,bURI3,bURU,cTIMES A,dASHGAB,dBAR,dDUN,dGA,dGAL,dGAN2 TENU,dGAR,dGU,dHA,dIGI",
    "dIM,dISH,dKI,dLUM,dMIN,dPA,dSHE,dSIG4,dTU,dU PLUS GUD,dUD,dURUDA,ba,cTIMES U,bUSH,cTIMES A,dKU,dKUR,dTAK4,bUSHX",
    "bUSH2,bUSHUMX,bUTUKI,bUZ3,cTIMES KASKAL,bUZU,bZA,cTENU,cSQUARED TIMES KUR,bZAG,bZAMX,bZE2,bZI,cOVER ZI,bZI3",
    "bZIB,cKABA TENU,bZIG,bZIZ2,bZU,bZU5,cTIMES A,bZUBUR,bZUM,bKAP ELAMITE,bAB TIMES NUN,bAB2 TIMES A",
    "bAMAR TIMES KUG,bDAG KISIM5 TIMES U2 PLUS MASH,bDAG3,bDISH PLUS SHU,bDUB TIMES SHE,bEZEN TIMES GUD,dSHE",
    "bGA2 TIMES AN PLUS KAK PLUS A,dASH2,bGE22,bGIG,bHUSH,bKA TIMES ANSHE,dASH3,dGISH,dGUD,dHI TIMES ASH2,dLUM,dPA",
    "dSHUL,dTU,dUR2,bLAGAB TIMES GI,bLU2 SHESHIG TIMES BAD,cTIMES ESH2 PLUS LAL,dSHU,bMESH,bMUSH3 TIMES ZA,bNA4,bNIN",
    "bNIN9,bNINDA2 TIMES BAL,dGI,bNU11 ROTATED NINETY DEGREES,bPESH2 ASTERISK,bPIR2,bSAG TIMES IGI GUNU,bTI2",
    "bUM TIMES ME,bU U"]),
  (0x12400, ["CUNEIFORM NUMERIC SIGN TWO ASH,cTHREEa,cFOURa,cFIVEa,cSIXa,cSEVENa,cEIGHTa,cNINEa,cTHREE DISH,cFOURa",
    "cFIVEa,cSIXa,cSEVENa,cEIGHTa,cNINEa,cFOUR U,cFIVEa,cSIXa,cSEVENa,cEIGHTa,cNINEa,cONE GESH2,cTWOa,cTHREEa,cFOURa",
    "cFIVEa,cSIXa,cSEVENa,cEIGHTa,cNINEa,cONE GESHU,cTWOa,cTHREEa,cFOURa,cFIVEa,cTWO SHAR2,cTHREEa,eVARIANT FORM",
    "cFOUR SHAR2,cFIVEa,cSIXa,cSEVENa,cEIGHTa,cNINEa,cONE SHARU,cTWOa,cTHREEa,eVARIANT FORM,cFOUR SHARU,cFIVEa",
    "cSHAR2 TIMES GAL PLUS DISH,gMIN,cONE BURU,cTWOa,cTHREEa,eVARIANT FORM,cFOUR BURU,cFIVEa",
    "cTHREE VARIANT FORM ESH16,fESH21,cFOUR VARIANT FORM LIMMU,fLIMMU4,fLIMMU A,gB,cSIX VARIANT FORM ASH9",
    "cSEVEN VARIANT FORM IMIN3,fIMIN A,gB,cEIGHT VARIANT FORM USSU,fUSSU3,cNINE VARIANT FORM ILIMMU,fILIMMU3",
    "fILIMMU4,fILIMMU A,cTWO ASH TENU,cTHREEb,cFOURb,cFIVEb,cSIXb,cONE BAN2,cTWOa,cTHREEa,cFOURa,eVARIANT FORM",
    "cFIVE BAN2,eVARIANT FORM,cNIGIDAMIN,cNIGIDAESH,cONE ESHE3,cTWOa,cONE THIRD DISH,cTWO THIRDSa,cFIVE SIXTHSa",
    "cONE THIRD VARIANT FORM A,cTWO THIRDSc,cONE EIGHTH ASH,dQUARTERa,cOLD ASSYRIAN ONE SIXTH,fQUARTER",
    "cONE QUARTER GUR,dHALFa,cELAMITE ONE THIRD,dTWO THIRDS,dFORTY,dFIFTY,cFOUR U VARIANT FORM,cFIVEc,cSIXc,cSEVENc",
    "cEIGHTc,cNINEc,,aPUNCTUATION SIGN OLD ASSYRIAN WORD DIVIDER,cVERTICAL COLON,cDIAGONALa,dTRICOLON,dQUADCOLON"]),
  (0x12480, ["CUNEIFORM SIGN AB TIMES NUN TENU,dSHU2,bAD TIMES ESH2,bBAD TIMES DISH TENU,bBAHAR2 TIMES AB2,dNI,dZA",
    "bBU OVER BU TIMES NA2,bDA TIMES TAK4,bDAG TIMES KUR,bDIM TIMES IGI,dU U U,bDIM2 TIMES UD,bDUG TIMES ANSHE,dASH",
    "eAT LEFT,dDIN,dDUN,dERIN2,dGA,dGI,dGIR2 GUNU,dGISH,dHA,dHI,dIGI GUNU,dKASKAL,dKUR,dKUSHU2,ePLUS KASKAL,dLAK-020",
    "dLAM,eTIMES KUR,dLUH PLUS GISH,dMASH,dMES,dMI,dNI,dPI,dSHE,dSI GUNU,bE2 TIMES KUR,dPAP,bERIN2 X",
    "bESH2 CROSSING ESH2,bEZEN SHESHIG TIMES ASH,eHI,eIGI GUNU,eLA,eLAL,eME,eMES,eSU,cb,bGA2 TIMES BAHAR2,dDIM GUNU",
    "dDUG TIMES IGIa,fKASKAL,dEREN,dGA,dGAR PLUS DI,fNE,dHA PLUS A,dKUSHU2 PLUS KASKAL,dLAM,eTIMES KUR,dLUH,dMUSH",
    "dNE,ePLUS E2,fGI,dSHIM,dZIZ2,bGABA ROTATED NINETY DEGREES,bGESHTIN TIMES U,bGISH TIMES GISH CROSSING GISH",
    "bGU2 TIMES IGI GUNU,bGUD PLUS GISH TIMES TAK4,bHA TENU GUNU,bHI TIMES ASH OVER HI TIMES ASH,bKA TIMES BU,dKA",
    "dU U U,dUR,bLAGAB TIMES ZU OVER ZU,bLAK-003,bLAK-021,bLAK-025,bLAK-030,bLAK-050,bLAK-051,bLAK-062",
    "bLAK-079 OVER LAK-079 GUNU,bLAK-080,bLAK-081 OVER LAK-081,bLAK-092,bLAK-130,bLAK-142,bLAK-210,bLAK-219,bLAK-220",
    "bLAK-225,bLAK-228,bLAK-238,bLAK-265,bLAK-266,bLAK-343,bLAK-347,bLAK-348,bLAK-383,bLAK-384,bLAK-390,bLAK-441",
    "bLAK-449,cTIMES GU,dIGI,dPAP PLUS LU3,ePLUS PAPb,dU2 PLUS BA,bLAK-450,bLAK-457,bLAK-470,bLAK-483,bLAK-490",
    "bLAK-492,bLAK-493,bLAK-495,bLAK-550"]),
  (0x12500, ["CUNEIFORM SIGN LAK-608,bLAK-617,cTIMES ASH,dBAD,dDUN3 GUNU GUNU,dKU3,dLA,dTAR,dTE,dU2,dUD,dURUDA",
    "bLAK-636,bLAK-648,cTIMES DUB,dGA,dIGI,eGUNU,dNI,dPAP PLUS PAP PLUS LU3,dSHESH PLUS KI,dUD,dURUDA,bLAK-724",
    "bLAK-749,bLU2 GUNU TIMES ASH,cTIMES DISH,dHAL,dPAP,ePLUS PAP PLUS LU3,dTAK4,bMI PLUS ZA7",
    "bMUSH OVER MUSH TIMES GA,fKAK,bNINDA2 TIMES DIM GUNU,dGISH,dGUL,dHI,dKESH2,dLAK-050,dMASH,dPAP PLUS PAP,dU",
    "ePLUS U,dURUDA,bSAG GUNU TIMES HA,cTIMES EN,dSHE AT LEFT,dTAK4,bSHA6 TENU,bSHE OVER SHE,cPLUS HUB2,dNAM2,dSAR",
    "bSHU2 PLUS DUG TIMES NI,dE2 TIMES AN,bSI TIMES TAK4,bTAK4 PLUS SAG,bTUM TIMES GAN2 TENU,dTHREE DISH",
    "bUR2 INVERTED,cTIMES UD,bURU TIMES DARA3,dLAK-668,dLU3,bZA7,bZU OVER ZU PLUS SAR,bZU5 TIMES THREE DISH TENU"]),
  (0x12F90, ["CYPRO-MINOAN SIGN CM001,bCM002,bCM004,bCM005,bCM006,bCM007,bCM008,bCM009,bCM010,bCM011,bCM012,bCM012B",
    "bCM013,bCM015,bCM017,bCM019,bCM021,bCM023,bCM024,bCM025,bCM026,bCM027,bCM028,bCM029,bCM030,bCM033,bCM034,bCM035",
    "bCM036,bCM037,bCM038,bCM039,bCM040,bCM041,bCM044,bCM046,bCM047,bCM049,bCM050,bCM051,bCM052,bCM053,bCM054,bCM055",
    "bCM056,bCM058,bCM059,bCM060,bCM061,bCM062,bCM063,bCM064,bCM066,bCM067,bCM068,bCM069,bCM070,bCM071,bCM072,bCM073",
    "bCM074,bCM075,bCM075B,bCM076,bCM078,bCM079,bCM080,bCM081,bCM082,bCM083,bCM084,bCM085,bCM086,bCM087,bCM088",
    "bCM089,bCM090,bCM091,bCM092,bCM094,bCM095,bCM096,bCM097,bCM098,bCM099,bCM100,bCM101,bCM102,bCM103,bCM104,bCM105",
    "bCM107,bCM108,bCM109,bCM110,bCM112,bCM114,bCM301,bCM302"]),
  (0x13000, ["EGYPTIAN HIEROGLYPH A001,bA002,bA003,bA004,bA005,bA005A,bA006,bA006A,bA006B,bA007,bA008,bA009,bA010",
    "bA011,bA012,bA013,bA014,bA014A,bA015,bA016,bA017,bA017A,bA018,bA019,bA020,bA021,bA022,bA023,bA024,bA025,bA026",
    "bA027,bA028,bA029,bA030,bA031,bA032,bA032A,bA033,bA034,bA035,bA036,bA037,bA038,bA039,bA040,bA040A,bA041,bA042",
    "bA042A,bA043,bA043A,bA044,bA045,bA045A,bA046,bA047,bA048,bA049,bA050,bA051,bA052,bA053,bA054,bA055,bA056,bA057",
    "bA058,bA059,bA060,bA061,bA062,bA063,bA064,bA065,bA066,bA067,bA068,bA069,bA070,bB001,bB002,bB003,bB004,bB005",
    "bB005A,bB006,bB007,bB008,bB009,bC001,bC002,bC002A,bC002B,bC002C,bC003,bC004,bC005,bC006,bC007,bC008,bC009,bC010",
    "bC010A,bC011,bC012,bC013,bC014,bC015,bC016,bC017,bC018,bC019,bC020,bC021,bC022,bC023,bC024,bD001,bD002,bD003",
    "bD004,bD005,bD006,bD007,bD008,bD008A,bD009,bD010,bD011,bD012,bD013,bD014,bD015,bD016,bD017,bD018,bD019,bD020",
    "bD021,bD022,bD023,bD024,bD025,bD026,bD027,bD027A,bD028,bD029,bD030,bD031,bD031A,bD032,bD033,bD034,bD034A,bD035",
    "bD036,bD037,bD038,bD039,bD040,bD041,bD042,bD043,bD044,bD045,bD046,bD046A,bD047,bD048,bD048A,bD049,bD050,bD050A",
    "bD050B,bD050C,bD050D,bD050E,bD050F,bD050G,bD050H,bD050I,bD051,bD052,bD052A,bD053,bD054,bD054A,bD055,bD056,bD057",
    "bD058,bD059,bD060,bD061,bD062,bD063,bD064,bD065,bD066,bD067,bD067A,bD067B,bD067C,bD067D,bD067E,bD067F,bD067G",
    "bD067H,bE001,bE002,bE003,bE004,bE005,bE006,bE007,bE008,bE008A,bE009,bE009A,bE010,bE011,bE012,bE013,bE014,bE015",
    "bE016,bE016A,bE017,bE017A,bE018,bE019,bE020,bE020A,bE021,bE022,bE023,bE024,bE025,bE026,bE027,bE028,bE028A,bE029",
    "bE030,bE031,bE032,bE033,bE034,bE034A,bE036,bE037,bE038,bF001,bF001A"]),
  (0x13100, ["EGYPTIAN HIEROGLYPH F002,bF003,bF004,bF005,bF006,bF007,bF008,bF009,bF010,bF011,bF012,bF013,bF013A",
    "bF014,bF015,bF016,bF017,bF018,bF019,bF020,bF021,bF021A,bF022,bF023,bF024,bF025,bF026,bF027,bF028,bF029,bF030",
    "bF031,bF031A,bF032,bF033,bF034,bF035,bF036,bF037,bF037A,bF038,bF038A,bF039,bF040,bF041,bF042,bF043,bF044,bF045",
    "bF045A,bF046,bF046A,bF047,bF047A,bF048,bF049,bF050,bF051,bF051A,bF051B,bF051C,bF052,bF053,bG001,bG002,bG003",
    "bG004,bG005,bG006,bG006A,bG007,bG007A,bG007B,bG008,bG009,bG010,bG011,bG011A,bG012,bG013,bG014,bG015,bG016,bG017",
    "bG018,bG019,bG020,bG020A,bG021,bG022,bG023,bG024,bG025,bG026,bG026A,bG027,bG028,bG029,bG030,bG031,bG032,bG033",
    "bG034,bG035,bG036,bG036A,bG037,bG037A,bG038,bG039,bG040,bG041,bG042,bG043,bG043A,bG044,bG045,bG045A,bG046,bG047",
    "bG048,bG049,bG050,bG051,bG052,bG053,bG054,bH001,bH002,bH003,bH004,bH005,bH006,bH006A,bH007,bH008,bI001,bI002",
    "bI003,bI004,bI005,bI005A,bI006,bI007,bI008,bI009,bI009A,bI010,bI010A,bI011,bI011A,bI012,bI013,bI014,bI015,bK001",
    "bK002,bK003,bK004,bK005,bK006,bK007,bK008,bL001,bL002,bL002A,bL003,bL004,bL005,bL006,bL006A,bL007,bL008,bM001",
    "bM001A,bM001B,bM002,bM003,bM003A,bM004,bM005,bM006,bM007,bM008,bM009,bM010,bM010A,bM011,bM012,bM012A,bM012B",
    "bM012C,bM012D,bM012E,bM012F,bM012G,bM012H,bM013,bM014,bM015,bM015A,bM016,bM016A,bM017,bM017A,bM018,bM019,bM020",
    "bM021,bM022,bM022A,bM023,bM024,bM024A,bM025,bM026,bM027,bM028,bM028A,bM029,bM030,bM031,bM031A,bM032,bM033",
    "bM033A,bM033B,bM034,bM035,bM036,bM037,bM038,bM039,bM040,bM040A,bM041,bM042,bM043,bM044,bN001,bN002,bN003,bN004",
    "bN005,bN006,bN007,bN008,bN009,bN010,bN011,bN012,bN013,bN014,bN015,bN016,bN017"]),
  (0x13200, ["EGYPTIAN HIEROGLYPH N018,bN018A,bN018B,bN019,bN020,bN021,bN022,bN023,bN024,bN025,bN025A,bN026,bN027",
    "bN028,bN029,bN030,bN031,bN032,bN033,bN033A,bN034,bN034A,bN035,bN035A,bN036,bN037,bN037A,bN038,bN039,bN040,bN041",
    "bN042,bNL001,bNL002,bNL003,bNL004,bNL005,bNL005A,bNL006,bNL007,bNL008,bNL009,bNL010,bNL011,bNL012,bNL013,bNL014",
    "bNL015,bNL016,bNL017,bNL017A,bNL018,bNL019,bNL020,bNU001,bNU002,bNU003,bNU004,bNU005,bNU006,bNU007,bNU008",
    "bNU009,bNU010,bNU010A,bNU011,bNU011A,bNU012,bNU013,bNU014,bNU015,bNU016,bNU017,bNU018,bNU018A,bNU019,bNU020",
    "bNU021,bNU022,bNU022A,bO001,bO001A,bO002,bO003,bO004,bO005,bO005A,bO006,bO006A,bO006B,bO006C,bO006D,bO006E",
    "bO006F,bO007,bO008,bO009,bO010,bO010A,bO010B,bO010C,bO011,bO012,bO013,bO014,bO015,bO016,bO017,bO018,bO019",
    "bO019A,bO020,bO020A,bO021,bO022,bO023,bO024,bO024A,bO025,bO025A,bO026,bO027,bO028,bO029,bO029A,bO030,bO030A",
    "bO031,bO032,bO033,bO033A,bO034,bO035,bO036,bO036A,bO036B,bO036C,bO036D,bO037,bO038,bO039,bO040,bO041,bO042",
    "bO043,bO044,bO045,bO046,bO047,bO048,bO049,bO050,bO050A,bO050B,bO051,bP001,bP001A,bP002,bP003,bP003A,bP004,bP005",
    "bP006,bP007,bP008,bP009,bP010,bP011,bQ001,bQ002,bQ003,bQ004,bQ005,bQ006,bQ007,bR001,bR002,bR002A,bR003,bR003A",
    "bR003B,bR004,bR005,bR006,bR007,bR008,bR009,bR010,bR010A,bR011,bR012,bR013,bR014,bR015,bR016,bR016A,bR017,bR018",
    "bR019,bR020,bR021,bR022,bR023,bR024,bR025,bR026,bR027,bR028,bR029,bS001,bS002,bS002A,bS003,bS004,bS005,bS006",
    "bS006A,bS007,bS008,bS009,bS010,bS011,bS012,bS013,bS014,bS014A,bS014B,bS015,bS016,bS017,bS017A,bS018,bS019,bS020",
    "bS021,bS022,bS023,bS024,bS025,bS026,bS026A,bS026B,bS027,bS028,bS029,bS030,bS031,bS032,bS033,bS034,bS035,bS035A",
    "bS036,bS037,bS038,bS039"]),
  (0x13300, ["EGYPTIAN HIEROGLYPH S040,bS041,bS042,bS043,bS044,bS045,bS046,bT001,bT002,bT003,bT003A,bT004,bT005",
    "bT006,bT007,bT007A,bT008,bT008A,bT009,bT009A,bT010,bT011,bT011A,bT012,bT013,bT014,bT015,bT016,bT016A,bT017",
    "bT018,bT019,bT020,bT021,bT022,bT023,bT024,bT025,bT026,bT027,bT028,bT029,bT030,bT031,bT032,bT032A,bT033,bT033A",
    "bT034,bT035,bT036,bU001,bU002,bU003,bU004,bU005,bU006,bU006A,bU006B,bU007,bU008,bU009,bU010,bU011,bU012,bU013",
    "bU014,bU015,bU016,bU017,bU018,bU019,bU020,bU021,bU022,bU023,bU023A,bU024,bU025,bU026,bU027,bU028,bU029,bU029A",
    "bU030,bU031,bU032,bU032A,bU033,bU034,bU035,bU036,bU037,bU038,bU039,bU040,bU041,bU042,bV001,bV001A,bV001B,bV001C",
    "bV001D,bV001E,bV001F,bV001G,bV001H,bV001I,bV002,bV002A,bV003,bV004,bV005,bV006,bV007,bV007A,bV007B,bV008,bV009",
    "bV010,bV011,bV011A,bV011B,bV011C,bV012,bV012A,bV012B,bV013,bV014,bV015,bV016,bV017,bV018,bV019,bV020,bV020A",
    "bV020B,bV020C,bV020D,bV020E,bV020F,bV020G,bV020H,bV020I,bV020J,bV020K,bV020L,bV021,bV022,bV023,bV023A,bV024",
    "bV025,bV026,bV027,bV028,bV028A,bV029,bV029A,bV030,bV030A,bV031,bV031A,bV032,bV033,bV033A,bV034,bV035,bV036",
    "bV037,bV037A,bV038,bV039,bV040,bV040A,bW001,bW002,bW003,bW003A,bW004,bW005,bW006,bW007,bW008,bW009,bW009A,bW010",
    "bW010A,bW011,bW012,bW013,bW014,bW014A,bW015,bW016,bW017,bW017A,bW018,bW018A,bW019,bW020,bW021,bW022,bW023,bW024",
    "bW024A,bW025,bX001,bX002,bX003,bX004,bX004A,bX004B,bX005,bX006,bX006A,bX007,bX008,bX008A,bY001,bY001A,bY002",
    "bY003,bY004,bY005,bY006,bY007,bY008,bZ001,bZ002,bZ002A,bZ002B,bZ002C,bZ002D,bZ003,bZ003A,bZ003B,bZ004,bZ004A",
    "bZ005,bZ005A,bZ006,bZ007,bZ008,bZ009,bZ010,bZ011,bZ012,bZ013,bZ014,bZ015,bZ015A,bZ015B,bZ015C,bZ015D,bZ015E"]),
  (0x13400, ["EGYPTIAN HIEROGLYPH Z015F,bZ015G,bZ015H,bZ015I,bZ016,bZ016A,bZ016B,bZ016C,bZ016D,bZ016E,bZ016F,bZ016G",
    "bZ016H,bAA001,bAA002,bAA003,bAA004,bAA005,bAA006,bAA007,bAA007A,bAA007B,bAA008,bAA009,bAA010,bAA011,bAA012",
    "bAA013,bAA014,bAA015,bAA016,bAA017,bAA018,bAA019,bAA020,bAA021,bAA022,bAA023,bAA024,bAA025,bAA026,bAA027,bAA028",
    "bAA029,bAA030,bAA031,bAA032,,bVERTICAL JOINER,bHORIZONTALa,bINSERT AT TOP START,dBOTTOMa,dTOP END,dBOTTOMa",
    "bOVERLAY MIDDLE,bBEGIN SEGMENT,bENDa"]),
  (0x14400, ["ANATOLIAN HIEROGLYPH A001,bA002,bA003,bA004,bA005,bA006,bA007,bA008,bA009,bA010,bA010A,bA011,bA012",
    "bA013,bA014,bA015,bA016,bA017,bA018,bA019,bA020,bA021,bA022,bA023,bA024,bA025,bA026,bA026A,bA027,bA028,bA029",
    "bA030,bA031,bA032,bA033,bA034,bA035,bA036,bA037,bA038,bA039,bA039A,bA040,bA041,bA041A,bA042,bA043,bA044,bA045",
    "bA045A,bA046,bA046A,bA046B,bA047,bA048,bA049,bA050,bA051,bA052,bA053,bA054,bA055,bA056,bA057,bA058,bA059,bA060",
    "bA061,bA062,bA063,bA064,bA065,bA066,bA066A,bA066B,bA066C,bA067,bA068,bA069,bA070,bA071,bA072,bA073,bA074,bA075",
    "bA076,bA077,bA078,bA079,bA080,bA081,bA082,bA083,bA084,bA085,bA086,bA087,bA088,bA089,bA090,bA091,bA092,bA093",
    "bA094,bA095,bA096,bA097,bA097A,bA098,bA098A,bA099,bA100,bA100A,bA101,bA101A,bA102,bA102A,bA103,bA104,bA104A",
    "bA104B,bA104C,bA105,bA105A,bA105B,bA106,bA107,bA107A,bA107B,bA107C,bA108,bA109,bA110,bA110A,bA110B,bA111,bA112",
    "bA113,bA114,bA115,bA115A,bA116,bA117,bA118,bA119,bA120,bA121,bA122,bA123,bA124,bA125,bA125A,bA126,bA127,bA128",
    "bA129,bA130,bA131,bA132,bA133,bA134,bA135,bA135A,bA136,bA137,bA138,bA139,bA140,bA141,bA142,bA143,bA144,bA145",
    "bA146,bA147,bA148,bA149,bA150,bA151,bA152,bA153,bA154,bA155,bA156,bA157,bA158,bA159,bA160,bA161,bA162,bA163",
    "bA164,bA165,bA166,bA167,bA168,bA169,bA170,bA171,bA172,bA173,bA174,bA175,bA176,bA177,bA178,bA179,bA180,bA181",
    "bA182,bA183,bA184,bA185,bA186,bA187,bA188,bA189,bA190,bA191,bA192,bA193,bA194,bA195,bA196,bA197,bA198,bA199",
    "bA200,bA201,bA202,bA202A,bA202B,bA203,bA204,bA205,bA206,bA207,bA207A,bA208,bA209,bA209A,bA210,bA211,bA212,bA213",
    "bA214,bA215,bA215A,bA216,bA216A,bA217,bA218,bA219,bA220,bA221,bA222"]),
  (0x14500, ["ANATOLIAN HIEROGLYPH A223,bA224,bA225,bA226,bA227,bA227A,bA228,bA229,bA230,bA231,bA232,bA233,bA234",
    "bA235,bA236,bA237,bA238,bA239,bA240,bA241,bA242,bA243,bA244,bA245,bA246,bA247,bA248,bA249,bA250,bA251,bA252",
    "bA253,bA254,bA255,bA256,bA257,bA258,bA259,bA260,bA261,bA262,bA263,bA264,bA265,bA266,bA267,bA267A,bA268,bA269",
    "bA270,bA271,bA272,bA273,bA274,bA275,bA276,bA277,bA278,bA279,bA280,bA281,bA282,bA283,bA284,bA285,bA286,bA287",
    "bA288,bA289,bA289A,bA290,bA291,bA292,bA293,bA294,bA294A,bA295,bA296,bA297,bA298,bA299,bA299A,bA300,bA301,bA302",
    "bA303,bA304,bA305,bA306,bA307,bA308,bA309,bA309A,bA310,bA311,bA312,bA313,bA314,bA315,bA316,bA317,bA318,bA319",
    "bA320,bA321,bA322,bA323,bA324,bA325,bA326,bA327,bA328,bA329,bA329A,bA330,bA331,bA332A,bA332B,bA332C,bA333,bA334",
    "bA335,bA336,bA336A,bA336B,bA336C,bA337,bA338,bA339,bA340,bA341,bA342,bA343,bA344,bA345,bA346,bA347,bA348,bA349",
    "bA350,bA351,bA352,bA353,bA354,bA355,bA356,bA357,bA358,bA359,bA359A,bA360,bA361,bA362,bA363,bA364,bA364A,bA365",
    "bA366,bA367,bA368,bA368A,bA369,bA370,bA371,bA371A,bA372,bA373,bA374,bA375,bA376,bA377,bA378,bA379,bA380,bA381",
    "bA381A,bA382,bA383 RA OR RI,bA383A,bA384,bA385,bA386,bA386A,bA387,bA388,bA389,bA390,bA391,bA392,bA393 EIGHT",
    "bA394,bA395,bA396,bA397,bA398,bA399,bA400,bA401,bA402,bA403,bA404,bA405,bA406,bA407,bA408,bA409",
    "bA410 BEGIN LOGOGRAM MARK,bA410A ENDb,bA411,bA412,bA413,bA414,bA415,bA416,bA417,bA418,bA419,bA420,bA421,bA422",
    "bA423,bA424,bA425,bA426,bA427,bA428,bA429,bA430,bA431,bA432,bA433,bA434,bA435,bA436,bA437,bA438,bA439,bA440",
    "bA441,bA442,bA443,bA444,bA445,bA446,bA447,bA448,bA449,bA450,bA450A,bA451,bA452,bA453,bA454,bA455,bA456,bA457"]),
  (0x14600, ["ANATOLIAN HIEROGLYPH A457A,bA458,bA459,bA460,bA461,bA462,bA463,bA464,bA465,bA466,bA467,bA468,bA469",
    "bA470,bA471,bA472,bA473,bA474,bA475,bA476,bA477,bA478,bA479,bA480,bA481,bA482,bA483,bA484,bA485,bA486,bA487",
    "bA488,bA489,bA490,bA491,bA492,bA493,bA494,bA495,bA496,bA497,bA501,bA502,bA503,bA504,bA505,bA506,bA507,bA508",
    "bA509,bA510,bA511,bA512,bA513,bA514,bA515,bA516,bA517,bA518,bA519,bA520,bA521,bA522,bA523,bA524,bA525,bA526",
    "bA527,bA528,bA529,bA530"]),
  (0x16800, ["BAMUM LETTER PHASE-A NGKUE MFON,cGBIEE FON,cPON MFON PIPAEMGBIEE,ePIPAEMBA,cNAA MFON,cSHUENSHUET",
    "cTITA MFON,cNZAa,cSHINDA PA NJI,cPON PA NJI PIPAEMGBIEE,fPIPAEMBA,cMAEMBGBIEE,cTU MAEMBA,cNGANGU,cMAEMVEUX",
    "cMANSUAE,cMVEUAENGAM,cSEUNYAM,cNTOQPEN,cKEUKEUTNDA,cNKINDI,cSUU,cNGKUENZEUM,cLAPAQ,cLET KUT,cNTAP MFAA,cMAEKEUP",
    "cPASHAE,cGHEUAERAE,cPAMSHAE,cMON NGGEUAET,cNZUN MEUT,cU YUQ NAE,cGHEUAEGHEUAE,cNTAP NTAA,cSISA,cMGBASA",
    "cMEUNJOMNDEUQ,cMOOMPUQ,cKAFA,cPA LEERAEWA,cNDAa,cPET,cMAEMKPEN,cNIKA,cPUP,cTUAEP,cLUAEP,cSONJAM,cTEUTEUWEN",
    "cMAENYI,cKET,cNDAANGGEUAET,cKUOQ,cMOOMEUT,cSHUM,cLOMMAE,cFIRI,cROM,cKPOQ,cSOQ,cMAP PIEET,cSHIRAE,cNTAP",
    "cSHOQ NSHUT YUM,cNYIT MONGKEUAEQ,cPAARAE,cNKAARAE,cUNKNOWN,cNGGEN,cMAESI,cNJAM,cMBANYI,cNYET,cTEUAEN,cSOT,cPAAM",
    "cNSHIEE,cMAEM,cNYI,cKAQ,cNSHA,cVEE,cLU,cNEN,cNAQ,cMBAQ,bPHASE-B NSHUET,cTU MAEMGBIEE,cSIEE,cSET TU,cLOM NTEUM",
    "cMBA MAELEE,cKIEEM,cYEURAE,cMBAARAE,cKAM,cPEESHI,cYAFU LEERAEWA,cLAM NSHUT NYAM,cNTIEE SHEUOQ,cNDU NJAA",
    "cGHEUGHEUAEM,cPIT,cTU NSIEE,cSHET NJAQ,cSHEUAEQTU,cMFON TEUAEQ,cMBIT MBAAKET,cNYI NTEUM,cKEUPUQ,cGHEUGHEN",
    "cKEUYEUX,cLAANAE,cPARUM,cVEUM,cNGKINDI MVOP,cNGGEU MBU,cWUAET,cSAKEUAE,cTAAM,cMEUQ,cNGGUOQ,dLARGE,cMFIYAQ,cSUE",
    "cMBEURI,cMONTIEEN,cNYAEMAE,cPUNGAAM,cMEUT NGGEET,cFEUX,cMBUOQ,cFEE,cKEUAEM,cMA NJEUAENA,dNJUQA,cLET,cNGGAAM",
    "cNSEN,cMA,cKIQ,cNGOM,bPHASE-C NGKUE MAEMBA,cNZA,cYUM,cWANGKUOQ,cNGGEN,cNDEUAEREE,cNGKAQ,cGHARAE,cMBEEKEET",
    "cGBAYI,cNYIR MKPARAQ MEUN,cNTU MBIT,cMBEUM,cPIRIEEN,cNDOMBU,cMBAA CABBAGE-TREE,cKEUSHEUAEP,cGHAP,cKEUKAQ",
    "cYU MUOMAE,cNZEUM,cMBUE,cNSEUAEN,cMBIT,cYEUQ,cKPARAQ,cKAA,cSEUX,cNDIDA,cTAASHAE,cNJUEQ,cTITA YUE,cSUAET",
    "cNGGUAEN NYAM,cVEUX,cNANSANAQ,cMA KEUAERI,cNTAA,cNGGUON,cLAP,cMBIRIEEN,cMGBASAQ,cNTEUNGBA,cTEUTEUX,cNGGUM,cFUE",
    "cNDEUT,cNSA,cNSHAQ,cBUNG,cVEUAEPEN,cMBERAE,cRU,cNJAEM,cLAM,cTITUAEP,cNSUOT NGOM,cNJEEEE,cKET,cNGGU,cMAESI",
    "cMBUAEM,cLU,cKUT,cNJAM,cNGOM,cWUP,cNGGUEET,cNSOM,cNTEN,cKUOP NKAARAE,cNSUN,cNDAM,cMA NSIEE,cYAA,cNDAP,cSHUEQ",
    "cSETFON,cMBI,cMAEMBA,cMBANYI,cKEUSEUX,cMBEUX,cKEUM,cMBAA PICKET,cYUWOQ,cNJEUX,cMIEE,cMUAE,cSHIQ,cKEN LAW",
    "dFATIGUE,cNGAQ,cNAQ,cLIQ,cPIN,cPEN,cTET,bPHASE-D MBUO,cWAP,cNJI,cMFON,cNJIEE,cLIEE,cNJEUT,cNSHEE,cNGGAAMAE",
    "cNYAM,cWUAEN,cNGKUN,cSHEE,cNGKAP,cKEUAETMEUN"]),
  (0x16900, ["BAMUM LETTER PHASE-D TEUT,cSHEUAE,cNJAP,cSUE,cKET,cYAEMMAE,cKUOM,cSAP,cMFEUT,cNDEUX,cMALEERI,cMEUT",
    "cSEUAEQ,cYEN,cNJEUAEM,cKEUOT MBUAE,cNGKEURI,cTU,cGHAA,cNGKYEE,cFEUFEUAET,cNDEE,cMGBOFUM,cLEUAEP,cNDON,cMONI",
    "cMGBEUN,cPUUT,cMGBIEE,cMFO,cLUM,cNSIEEP,cMBAA,cKWAET,cNYET,cTEUAEN,cSOT,cYUWOQ,cKEUM,cRAEM,cTEEEE,cNGKEUAEQ",
    "cMFEUAE,cNSIEET,cKEUP,cPIP,cPEUTAE,cNYUE,cLET,cNGGAAM,cMFIEE,cNGGWAEN,cYUOM,cPAP,cYUOP,cNDAM,cNTEUM,cSUAE,cKUN",
    "cNGGEUX,cNGKIEE,cTUOT,cMEUN,cKUQ,cNSUM,cTEUN,cMAENJET,cNGGAP,cLEUM,cNGGUOM,cNSHUT,cNJUEQ,cGHEUAE,cKU,cREN OLD",
    "cTAE,cTOQ,cNYI,cRII,cLEEEE,cMEEEE,cM,cSUU,cMU,cSHII,cSHEUX,cKYEE,cNU,cSHU,cNTEE,cPEE,cNI,cSHOQ,cPUQ,cMVOP,cLOQ",
    "cREN MUCH,cTI,cNTUU,cMBAA SEVEN,cSAQ,cFAA,bPHASE-E NDAP,cTOON,cMBEUM,cLAP,cVOM,cLOON,cPAA,cSOM,cRAQ,cNSHUOP",
    "cNDUN,cPUAE,cTAM,cNGKA,cKPEUX,cWUO,cSEE,cNGGEUAET,cPAAM,cTOO,cKUOP,cLOM,cNSHIEE,cNGOP,cMAEM,cNGKEUX,cNGOQ",
    "cNSHUE,cRIMGBA,cNJEUX,cPEEM,cSAA,cNGGURAE,cMGBA,cGHEUX,cNGKEUAEM,cNJAEMLI,cMAP,cLOOT,cNGGEEEE,cNDIQ,cTAEN NTEUM",
    "cSET,cPUM,cNDAA SOFTNESS,cNGGUAESHAE NYAM,cYIEE,cGHEUN,cTUAE,cYEUAE,cPO,cTUMAE,cKEUAE,cSUAEN,cTEUAEQ,cVEUAE",
    "cWEUX,cLAAM,cPU,cTAAQ,cGHAAMAE,cNGEUREUT,cSHEUAEQ,cMGBEN,cMBEE,cNZAQ,cNKOM,cGBET,cTUM,cKUET,cYAP,cNYI CLEAVER",
    "cYIT,cMFEUQ,cNDIAQ,cPIEEQ,cYUEQ,cLEUAEM,cFUE,cGBEUX,cNGKUP,cKET,cMAE,cNGKAAMI,cGHET,cFA,cNTUM,cPEUT,cYEUM",
    "cNGGEUAE,cNYI BETWEEN,cNZUQ,cPOON,cMIEE,cFUET,cNAE,cMUAE,cGHEUAE,cFU I,cMVI,cPUAQ,cNGKUM,cKUT,cPIET,cNTAP",
    "cYEUAET,cNGGUP,cPA PEOPLE,cFU CALL,cFOM,cNJEE,cA,cTOQ,cO,cI,cLAQ,cPA PLURAL,cTAA,cTAQ,cNDAA MY HOUSE,cSHIQ",
    "cYEUX,cNGUAE,cYUAEN,cYOQ SWIMMING,dCOVER,cYUQ,cYUN,cKEUX,cPEUX,cNJEE EPOCH,cPUE,cWUE,cFEE,cVEE,cLU,cMI,cREUX",
    "cRAE,cNGUAET,cNGA,cSHO,cSHOQ,cFU REMEDY,cNA,cPI,cLOQ,cKO,cMEN,cMA,cMAQ,cTEU,cKI,cMON"]),
  (0x16A00, ["BAMUM LETTER PHASE-E TEN,cFAQ,cGHOM,bPHASE-F KA,cU,cKU,cEE,cREE,cTAE,cNYI,cLA,cRII,cRIEE,cMEEEE,cTAA",
    "cNDAA,cNJAEM,cM,cSUU,cSHII,cSI,cSEUX,cKYEE,cKET,cNUAE,cNU,cNJUAE,cYOQ,cSHU,cYA,cNSHA,cPEUX,cNTEE,cWUE,cPEE,cRU",
    "cNI,cREUX,cKEN,cNGKWAEN,cNGGA,cSHO,cPUAE,cFOM,cWA,cLI,cLOQ,cKO,cMBEN,cREN,cMA,cMO,cMBAA,cTET,cKPA,cSAMBA,cVUEQ"]),
  (0x16A40, ["MRO LETTER TA,bNGI,bYO,bMIM,bBA,bDA,bA,bPHI,bKHAI,bHAO,bDAI,bCHU,bKEAAE,bOL,bMAEM,bNIN,bPA,bOO,bO,bRO",
    "bSHI,bTHEA,bEA,bWA,bE,bKO,bLAN,bLA,bHAI,bRI,bTEK,,aDIGIT ZERO,bONE,bTWO,bTHREE,bFOUR,bFIVE,bSIX,bSEVEN,bEIGHT",
    "bNINE"]),
  (0x16A6E, ["MRO DANDA,aDOUBLEa,TANGSA LETTER OZ,bOC,bOQ,bOX,bAZ,bAC,bAQ,bAX,bVZ,bVC,bVQ,bVX,bEZ,bEC,bEQ,bEX,bIZ",
    "bIC,bIQ,bIX,bUZ,bUC,bUQ,bUX,bAWZ,bAWC,bAWQ,bAWX,bUIZ,bUIC,bUIQ,bUIX,bFINAL NG,bLONG UEX,bSHORT UEZ,cAWX,bUEC",
    "bUEZ,bUEQ,bUEX,bUIUZ,bUIUC,bUIUQ,bUIUX,bMZ,bMC,bMQ,bMX,bKA,bKHA,bGA,bNGA,bSA,bYA,bWA,bPA,bNYA,bPHA,bBA,bMA,bNA",
    "bHA,bLA,bHTA,bTA,bDA,bRA,bNHA,bSHA,bCA,bTSA,bGHA,bHTTA,bTHA,bXA,bFA,bDHA,bCHA,bZA,,aDIGIT ZERO,bONE,bTWO,bTHREE",
    "bFOUR,bFIVE,bSIX,bSEVEN,bEIGHT,bNINE"]),
  (0x16AD0, ["BASSA VAH LETTER ENNI,cKA,cSE,cFA,cMBE,cYIE,cGAH,cDHII,cKPAH,cJO,cHWAH,cWA,cZO,cGBU,cDO,cCE,cUWU,cTO",
    "cBA,cVU,cYEIN,cPA,cWADDA,cA,cO,cOO,cU,cEE,cE,cI,,,bCOMBINING HIGH TONE,cLOWa,cMIDa,cLOW-MIDa,cHIGH-LOWa",
    "bFULL STOP"]),
  (0x16B00, ["PAHAWH HMONG VOWEL KEEB,cKEEV,cKIB,cKIV,cKAUB,cKAUV,cKUB,cKUV,cKEB,cKEV,cKAIB,cKAIV,cKOOB,cKOOV,cKAWB",
    "cKAWV,cKUAB,cKUAV,cKOB,cKOV,cKIAB,cKIAV,cKAB,cKAV,cKWB,cKWV,cKAAB,cKAAV,bCONSONANT VAU,cNTSAU,cLAU,cHAU,cNLAU",
    "cRAU,cNKAU,cQHAU,cYAU,cHLAU,cMAU,cCHAU,cNCHAU,cHNAU,cPLHAU,cNTHAU,cNAU,cAU,cXAU,cCAU,bMARK CIM TUB,dSO,dKES",
    "dKHAV,dSUAM,dHOM,dTAUM,bSIGN VOS THOM,dTSHAB CEEB,cCIM CHEEM,cVOS THIAB,dFEEM,cXYEEM NTXIV,dRHO,dTOV,dFAIB",
    "cVOS SEEV,cMEEJ SUAB,cVOS NRUA,cIB YAM,cXAUS,cCIM TSOV ROG"]),
  (0x16B50, ["PAHAWH HMONG DIGIT ZERO,cONE,cTWO,cTHREE,cFOUR,cFIVE,cSIX,cSEVEN,cEIGHT,cNINE,,bNUMBER TENS,cHUNDREDS",
    "cTEN THOUSANDS,cMILLIONS,cHUNDREDa,cTEN BILLIONS,cTRILLIONS,,bSIGN VOS LUB,cXYOO,cHLI,cTHIRD-STAGEa,cZWJ THAJ",
    "cHNUB,cNQIG,cXIAB,cNTUJ,cAV,cTXHEEJ CEEV,cMEEJ TSEEB,cTAU,cLOS,cMUS,cCIM HAIS LUS NTOG NTOG,dCUAM TSHOOJ,dTXWV",
    "eCHWV,dPUB DAWB,dNRES TOS"]),
  (0x16B7D, ["PAHAWH HMONG CLAN SIGN TSHEEJ,dYEEG,dLIS,dLAUJ,dXYOOJ,dKOO,dHAWJ,dMUAS,dTHOJ,dTSAB,dPHAB,dKHAB,dHAM",
    "dVAJ,dFAJ,dYAJ,dTSWB,dKWM,dVWJ"]),
  (0x16E40, ["MEDEFAIDRIN CAPITAL LETTER M,cS,cV,cW,cATIU,cZ,cKP,cP,cT,cG,cF,cI,cK,cA,cJ,cE,cB,cC,cU,cYU,cL,cQ,cHP",
    "cNY,cX,cD,cOE,cN,cR,cO,cAI,cY,aSMALL LETTER M,cS,cV,cW,cATIU,cZ,cKP,cP,cT,cG,cF,cI,cK,cA,cJ,cE,cB,cC,cU,cYU,cL",
    "cQ,cHP,cNY,cX,cD,cOE,cN,cR,cO,cAI,cY,aDIGIT ZERO,bONE,bTWO,bTHREE,bFOUR,bFIVE,bSIX,bSEVEN,bEIGHT,bNINE",
    "aNUMBER TEN,bELEVEN,bTWELVE,bTHIRTEEN,bFOURTEEN,bFIFTEEN,bSIXTEEN,bSEVENTEEN,bEIGHTEEN,bNINETEEN",
    "aDIGIT ONE ALTERNATE FORM,bTWOb,bTHREEb,aCOMMA,aFULL STOP,aSYMBOL AIVA,aEXCLAMATION OH"]),
  (0x16F00, ["MIAO LETTER PA,bBA,bYI PA,bPLA,bMA,bMHA,bARCHAIC MA,bFA,bVA,bVFA,bTA,bDA,bYI TTA,cTA,bTTA,bDDA,bNA",
    "bNHA,bYI NNA,bARCHAIC NA,bNNA,bNNHA,bLA,bLYA,bLHA,bLHYA,bTLHA,bDLHA,bTLHYA,bDLHYA,bKA,bGA,bYI KA,bQA,bQGA,bNGA",
    "bNGHA,bARCHAIC NGA,bHA,bXA,bGHA,bGHHA,bTSSA,bDZZA,bNYA,bNYHA,bTSHA,bDZHA,bYI TSHA,cDZHA,bREFORMED TSHA,bSHA",
    "bSSA,bZHA,bZSHA,bTSA,bDZA,bYI TSA,bSA,bZA,bZSA,bZZA,bZZSA,bARCHAIC ZZA,bZZYA,bZZSYA,bWA,bAH,bHHA,bBRI,bSYI",
    "bDZYI,bTE,bTSE,bRTE"]),
  (0x16F4F, ["MIAO SIGN CONSONANT MODIFIER BAR,aLETTER NASALIZATION,aSIGN ASPIRATION,bREFORMED VOICING,cASPIRATION",
    "aVOWEL SIGN A,cAA,cAHH,cAN,cANG,cO,cOO,cWO,cW,cE,cEN,cENG,cOEY,cI,cIA,cIAN,cIANG,cIO,cIE,cII,cIU,cING,cU,cUA",
    "cUAN,cUANG,cUU,cUEI,cUNG,cY,cYI,cAE,cAEE,cERR,cROUNDEDa,cER,cROUNDEDa,cAI,cEI,cAU,cOU,cN,cNG,cUOG,cYUI,cOG,cOER",
    "cVW,cIG,cEA,cIONG,cUI"]),
  (0x16F8F, ["MIAO TONE RIGHT,bTOPa,bABOVE,bBELOW,aLETTER TONE-2,bTONE-3,bTONE-4,bTONE-5,bTONE-6,bTONE-7,bTONE-8",
    "bREFORMED TONE-1,cTONE-2,cTONE-4,cTONE-5,cTONE-6,cTONE-8"]),
  (0x16FE0, ["TANGUT ITERATION MARK,NUSHUb,OLD CHINESE HOOKa,bITERATIONa,KHITAN SMALL SCRIPT FILLER"]),
  (0x16FF0, ["VIETNAMESE ALTERNATE READING MARK CA,dNHAY"]),
  (0x18800, ["TANGUT COMPONENT-001,aCOMPONENT-002,aCOMPONENT-003,aCOMPONENT-004,aCOMPONENT-005,aCOMPONENT-006",
    "aCOMPONENT-007,aCOMPONENT-008,aCOMPONENT-009,aCOMPONENT-010,aCOMPONENT-011,aCOMPONENT-012,aCOMPONENT-013",
    "aCOMPONENT-014,aCOMPONENT-015,aCOMPONENT-016,aCOMPONENT-017,aCOMPONENT-018,aCOMPONENT-019,aCOMPONENT-020",
    "aCOMPONENT-021,aCOMPONENT-022,aCOMPONENT-023,aCOMPONENT-024,aCOMPONENT-025,aCOMPONENT-026,aCOMPONENT-027",
    "aCOMPONENT-028,aCOMPONENT-029,aCOMPONENT-030,aCOMPONENT-031,aCOMPONENT-032,aCOMPONENT-033,aCOMPONENT-034",
    "aCOMPONENT-035,aCOMPONENT-036,aCOMPONENT-037,aCOMPONENT-038,aCOMPONENT-039,aCOMPONENT-040,aCOMPONENT-041",
    "aCOMPONENT-042,aCOMPONENT-043,aCOMPONENT-044,aCOMPONENT-045,aCOMPONENT-046,aCOMPONENT-047,aCOMPONENT-048",
    "aCOMPONENT-049,aCOMPONENT-050,aCOMPONENT-051,aCOMPONENT-052,aCOMPONENT-053,aCOMPONENT-054,aCOMPONENT-055",
    "aCOMPONENT-056,aCOMPONENT-057,aCOMPONENT-058,aCOMPONENT-059,aCOMPONENT-060,aCOMPONENT-061,aCOMPONENT-062",
    "aCOMPONENT-063,aCOMPONENT-064,aCOMPONENT-065,aCOMPONENT-066,aCOMPONENT-067,aCOMPONENT-068,aCOMPONENT-069",
    "aCOMPONENT-070,aCOMPONENT-071,aCOMPONENT-072,aCOMPONENT-073,aCOMPONENT-074,aCOMPONENT-075,aCOMPONENT-076",
    "aCOMPONENT-077,aCOMPONENT-078,aCOMPONENT-079,aCOMPONENT-080,aCOMPONENT-081,aCOMPONENT-082,aCOMPONENT-083",
    "aCOMPONENT-084,aCOMPONENT-085,aCOMPONENT-086,aCOMPONENT-087,aCOMPONENT-088,aCOMPONENT-089,aCOMPONENT-090",
    "aCOMPONENT-091,aCOMPONENT-092,aCOMPONENT-093,aCOMPONENT-094,aCOMPONENT-095,aCOMPONENT-096,aCOMPONENT-097",
    "aCOMPONENT-098,aCOMPONENT-099,aCOMPONENT-100,aCOMPONENT-101,aCOMPONENT-102,aCOMPONENT-103,aCOMPONENT-104",
    "aCOMPONENT-105,aCOMPONENT-106,aCOMPONENT-107,aCOMPONENT-108,aCOMPONENT-109,aCOMPONENT-110,aCOMPONENT-111",
    "aCOMPONENT-112,aCOMPONENT-113,aCOMPONENT-114,aCOMPONENT-115,aCOMPONENT-116,aCOMPONENT-117,aCOMPONENT-118",
    "aCOMPONENT-119,aCOMPONENT-120,aCOMPONENT-121,aCOMPONENT-122,aCOMPONENT-123,aCOMPONENT-124,aCOMPONENT-125",
    "aCOMPONENT-126,aCOMPONENT-127,aCOMPONENT-128,aCOMPONENT-129,aCOMPONENT-130,aCOMPONENT-131,aCOMPONENT-132",
    "aCOMPONENT-133,aCOMPONENT-134,aCOMPONENT-135,aCOMPONENT-136,aCOMPONENT-137,aCOMPONENT-138,aCOMPONENT-139",
    "aCOMPONENT-140,aCOMPONENT-141,aCOMPONENT-142,aCOMPONENT-143,aCOMPONENT-144,aCOMPONENT-145,aCOMPONENT-146",
    "aCOMPONENT-147,aCOMPONENT-148,aCOMPONENT-149,aCOMPONENT-150,aCOMPONENT-151,aCOMPONENT-152,aCOMPONENT-153",
    "aCOMPONENT-154,aCOMPONENT-155,aCOMPONENT-156,aCOMPONENT-157,aCOMPONENT-158,aCOMPONENT-159,aCOMPONENT-160",
    "aCOMPONENT-161,aCOMPONENT-162,aCOMPONENT-163,aCOMPONENT-164,aCOMPONENT-165,aCOMPONENT-166,aCOMPONENT-167",
    "aCOMPONENT-168,aCOMPONENT-169,aCOMPONENT-170,aCOMPONENT-171,aCOMPONENT-172,aCOMPONENT-173,aCOMPONENT-174",
    "aCOMPONENT-175,aCOMPONENT-176,aCOMPONENT-177,aCOMPONENT-178,aCOMPONENT-179,aCOMPONENT-180,aCOMPONENT-181",
    "aCOMPONENT-182,aCOMPONENT-183,aCOMPONENT-184,aCOMPONENT-185,aCOMPONENT-186,aCOMPONENT-187,aCOMPONENT-188",
    "aCOMPONENT-189,aCOMPONENT-190,aCOMPONENT-191,aCOMPONENT-192,aCOMPONENT-193,aCOMPONENT-194,aCOMPONENT-195",
    "aCOMPONENT-196,aCOMPONENT-197,aCOMPONENT-198,aCOMPONENT-199,aCOMPONENT-200,aCOMPONENT-201,aCOMPONENT-202",
    "aCOMPONENT-203,aCOMPONENT-204,aCOMPONENT-205,aCOMPONENT-206,aCOMPONENT-207,aCOMPONENT-208,aCOMPONENT-209",
    "aCOMPONENT-210,aCOMPONENT-211,aCOMPONENT-212,aCOMPONENT-213,aCOMPONENT-214,aCOMPONENT-215,aCOMPONENT-216",
    "aCOMPONENT-217,aCOMPONENT-218,aCOMPONENT-219,aCOMPONENT-220,aCOMPONENT-221,aCOMPONENT-222,aCOMPONENT-223",
    "aCOMPONENT-224,aCOMPONENT-225,aCOMPONENT-226,aCOMPONENT-227,aCOMPONENT-228,aCOMPONENT-229,aCOMPONENT-230",
    "aCOMPONENT-231,aCOMPONENT-232,aCOMPONENT-233,aCOMPONENT-234,aCOMPONENT-235,aCOMPONENT-236,aCOMPONENT-237",
    "aCOMPONENT-238,aCOMPONENT-239,aCOMPONENT-240,aCOMPONENT-241,aCOMPONENT-242,aCOMPONENT-243,aCOMPONENT-244",
    "aCOMPONENT-245,aCOMPONENT-246,aCOMPONENT-247,aCOMPONENT-248,aCOMPONENT-249,aCOMPONENT-250,aCOMPONENT-251",
    "aCOMPONENT-252,aCOMPONENT-253,aCOMPONENT-254,aCOMPONENT-255,aCOMPONENT-256"]),
  (0x18900, ["TANGUT COMPONENT-257,aCOMPONENT-258,aCOMPONENT-259,aCOMPONENT-260,aCOMPONENT-261,aCOMPONENT-262",
    "aCOMPONENT-263,aCOMPONENT-264,aCOMPONENT-265,aCOMPONENT-266,aCOMPONENT-267,aCOMPONENT-268,aCOMPONENT-269",
    "aCOMPONENT-270,aCOMPONENT-271,aCOMPONENT-272,aCOMPONENT-273,aCOMPONENT-274,aCOMPONENT-275,aCOMPONENT-276",
    "aCOMPONENT-277,aCOMPONENT-278,aCOMPONENT-279,aCOMPONENT-280,aCOMPONENT-281,aCOMPONENT-282,aCOMPONENT-283",
    "aCOMPONENT-284,aCOMPONENT-285,aCOMPONENT-286,aCOMPONENT-287,aCOMPONENT-288,aCOMPONENT-289,aCOMPONENT-290",
    "aCOMPONENT-291,aCOMPONENT-292,aCOMPONENT-293,aCOMPONENT-294,aCOMPONENT-295,aCOMPONENT-296,aCOMPONENT-297",
    "aCOMPONENT-298,aCOMPONENT-299,aCOMPONENT-300,aCOMPONENT-301,aCOMPONENT-302,aCOMPONENT-303,aCOMPONENT-304",
    "aCOMPONENT-305,aCOMPONENT-306,aCOMPONENT-307,aCOMPONENT-308,aCOMPONENT-309,aCOMPONENT-310,aCOMPONENT-311",
    "aCOMPONENT-312,aCOMPONENT-313,aCOMPONENT-314,aCOMPONENT-315,aCOMPONENT-316,aCOMPONENT-317,aCOMPONENT-318",
    "aCOMPONENT-319,aCOMPONENT-320,aCOMPONENT-321,aCOMPONENT-322,aCOMPONENT-323,aCOMPONENT-324,aCOMPONENT-325",
    "aCOMPONENT-326,aCOMPONENT-327,aCOMPONENT-328,aCOMPONENT-329,aCOMPONENT-330,aCOMPONENT-331,aCOMPONENT-332",
    "aCOMPONENT-333,aCOMPONENT-334,aCOMPONENT-335,aCOMPONENT-336,aCOMPONENT-337,aCOMPONENT-338,aCOMPONENT-339",
    "aCOMPONENT-340,aCOMPONENT-341,aCOMPONENT-342,aCOMPONENT-343,aCOMPONENT-344,aCOMPONENT-345,aCOMPONENT-346",
    "aCOMPONENT-347,aCOMPONENT-348,aCOMPONENT-349,aCOMPONENT-350,aCOMPONENT-351,aCOMPONENT-352,aCOMPONENT-353",
    "aCOMPONENT-354,aCOMPONENT-355,aCOMPONENT-356,aCOMPONENT-357,aCOMPONENT-358,aCOMPONENT-359,aCOMPONENT-360",
    "aCOMPONENT-361,aCOMPONENT-362,aCOMPONENT-363,aCOMPONENT-364,aCOMPONENT-365,aCOMPONENT-366,aCOMPONENT-367",
    "aCOMPONENT-368,aCOMPONENT-369,aCOMPONENT-370,aCOMPONENT-371,aCOMPONENT-372,aCOMPONENT-373,aCOMPONENT-374",
    "aCOMPONENT-375,aCOMPONENT-376,aCOMPONENT-377,aCOMPONENT-378,aCOMPONENT-379,aCOMPONENT-380,aCOMPONENT-381",
    "aCOMPONENT-382,aCOMPONENT-383,aCOMPONENT-384,aCOMPONENT-385,aCOMPONENT-386,aCOMPONENT-387,aCOMPONENT-388",
    "aCOMPONENT-389,aCOMPONENT-390,aCOMPONENT-391,aCOMPONENT-392,aCOMPONENT-393,aCOMPONENT-394,aCOMPONENT-395",
    "aCOMPONENT-396,aCOMPONENT-397,aCOMPONENT-398,aCOMPONENT-399,aCOMPONENT-400,aCOMPONENT-401,aCOMPONENT-402",
    "aCOMPONENT-403,aCOMPONENT-404,aCOMPONENT-405,aCOMPONENT-406,aCOMPONENT-407,aCOMPONENT-408,aCOMPONENT-409",
    "aCOMPONENT-410,aCOMPONENT-411,aCOMPONENT-412,aCOMPONENT-413,aCOMPONENT-414,aCOMPONENT-415,aCOMPONENT-416",
    "aCOMPONENT-417,aCOMPONENT-418,aCOMPONENT-419,aCOMPONENT-420,aCOMPONENT-421,aCOMPONENT-422,aCOMPONENT-423",
    "aCOMPONENT-424,aCOMPONENT-425,aCOMPONENT-426,aCOMPONENT-427,aCOMPONENT-428,aCOMPONENT-429,aCOMPONENT-430",
    "aCOMPONENT-431,aCOMPONENT-432,aCOMPONENT-433,aCOMPONENT-434,aCOMPONENT-435,aCOMPONENT-436,aCOMPONENT-437",
    "aCOMPONENT-438,aCOMPONENT-439,aCOMPONENT-440,aCOMPONENT-441,aCOMPONENT-442,aCOMPONENT-443,aCOMPONENT-444",
    "aCOMPONENT-445,aCOMPONENT-446,aCOMPONENT-447,aCOMPONENT-448,aCOMPONENT-449,aCOMPONENT-450,aCOMPONENT-451",
    "aCOMPONENT-452,aCOMPONENT-453,aCOMPONENT-454,aCOMPONENT-455,aCOMPONENT-456,aCOMPONENT-457,aCOMPONENT-458",
    "aCOMPONENT-459,aCOMPONENT-460,aCOMPONENT-461,aCOMPONENT-462,aCOMPONENT-463,aCOMPONENT-464,aCOMPONENT-465",
    "aCOMPONENT-466,aCOMPONENT-467,aCOMPONENT-468,aCOMPONENT-469,aCOMPONENT-470,aCOMPONENT-471,aCOMPONENT-472",
    "aCOMPONENT-473,aCOMPONENT-474,aCOMPONENT-475,aCOMPONENT-476,aCOMPONENT-477,aCOMPONENT-478,aCOMPONENT-479",
    "aCOMPONENT-480,aCOMPONENT-481,aCOMPONENT-482,aCOMPONENT-483,aCOMPONENT-484,aCOMPONENT-485,aCOMPONENT-486",
    "aCOMPONENT-487,aCOMPONENT-488,aCOMPONENT-489,aCOMPONENT-490,aCOMPONENT-491,aCOMPONENT-492,aCOMPONENT-493",
    "aCOMPONENT-494,aCOMPONENT-495,aCOMPONENT-496,aCOMPONENT-497,aCOMPONENT-498,aCOMPONENT-499,aCOMPONENT-500",
    "aCOMPONENT-501,aCOMPONENT-502,aCOMPONENT-503,aCOMPONENT-504,aCOMPONENT-505,aCOMPONENT-506,aCOMPONENT-507",
    "aCOMPONENT-508,aCOMPONENT-509,aCOMPONENT-510,aCOMPONENT-511,aCOMPONENT-512"]),
  (0x18A00, ["TANGUT COMPONENT-513,aCOMPONENT-514,aCOMPONENT-515,aCOMPONENT-516,aCOMPONENT-517,aCOMPONENT-518",
    "aCOMPONENT-519,aCOMPONENT-520,aCOMPONENT-521,aCOMPONENT-522,aCOMPONENT-523,aCOMPONENT-524,aCOMPONENT-525",
    "aCOMPONENT-526,aCOMPONENT-527,aCOMPONENT-528,aCOMPONENT-529,aCOMPONENT-530,aCOMPONENT-531,aCOMPONENT-532",
    "aCOMPONENT-533,aCOMPONENT-534,aCOMPONENT-535,aCOMPONENT-536,aCOMPONENT-537,aCOMPONENT-538,aCOMPONENT-539",
    "aCOMPONENT-540,aCOMPONENT-541,aCOMPONENT-542,aCOMPONENT-543,aCOMPONENT-544,aCOMPONENT-545,aCOMPONENT-546",
    "aCOMPONENT-547,aCOMPONENT-548,aCOMPONENT-549,aCOMPONENT-550,aCOMPONENT-551,aCOMPONENT-552,aCOMPONENT-553",
    "aCOMPONENT-554,aCOMPONENT-555,aCOMPONENT-556,aCOMPONENT-557,aCOMPONENT-558,aCOMPONENT-559,aCOMPONENT-560",
    "aCOMPONENT-561,aCOMPONENT-562,aCOMPONENT-563,aCOMPONENT-564,aCOMPONENT-565,aCOMPONENT-566,aCOMPONENT-567",
    "aCOMPONENT-568,aCOMPONENT-569,aCOMPONENT-570,aCOMPONENT-571,aCOMPONENT-572,aCOMPONENT-573,aCOMPONENT-574",
    "aCOMPONENT-575,aCOMPONENT-576,aCOMPONENT-577,aCOMPONENT-578,aCOMPONENT-579,aCOMPONENT-580,aCOMPONENT-581",
    "aCOMPONENT-582,aCOMPONENT-583,aCOMPONENT-584,aCOMPONENT-585,aCOMPONENT-586,aCOMPONENT-587,aCOMPONENT-588",
    "aCOMPONENT-589,aCOMPONENT-590,aCOMPONENT-591,aCOMPONENT-592,aCOMPONENT-593,aCOMPONENT-594,aCOMPONENT-595",
    "aCOMPONENT-596,aCOMPONENT-597,aCOMPONENT-598,aCOMPONENT-599,aCOMPONENT-600,aCOMPONENT-601,aCOMPONENT-602",
    "aCOMPONENT-603,aCOMPONENT-604,aCOMPONENT-605,aCOMPONENT-606,aCOMPONENT-607,aCOMPONENT-608,aCOMPONENT-609",
    "aCOMPONENT-610,aCOMPONENT-611,aCOMPONENT-612,aCOMPONENT-613,aCOMPONENT-614,aCOMPONENT-615,aCOMPONENT-616",
    "aCOMPONENT-617,aCOMPONENT-618,aCOMPONENT-619,aCOMPONENT-620,aCOMPONENT-621,aCOMPONENT-622,aCOMPONENT-623",
    "aCOMPONENT-624,aCOMPONENT-625,aCOMPONENT-626,aCOMPONENT-627,aCOMPONENT-628,aCOMPONENT-629,aCOMPONENT-630",
    "aCOMPONENT-631,aCOMPONENT-632,aCOMPONENT-633,aCOMPONENT-634,aCOMPONENT-635,aCOMPONENT-636,aCOMPONENT-637",
    "aCOMPONENT-638,aCOMPONENT-639,aCOMPONENT-640,aCOMPONENT-641,aCOMPONENT-642,aCOMPONENT-643,aCOMPONENT-644",
    "aCOMPONENT-645,aCOMPONENT-646,aCOMPONENT-647,aCOMPONENT-648,aCOMPONENT-649,aCOMPONENT-650,aCOMPONENT-651",
    "aCOMPONENT-652,aCOMPONENT-653,aCOMPONENT-654,aCOMPONENT-655,aCOMPONENT-656,aCOMPONENT-657,aCOMPONENT-658",
    "aCOMPONENT-659,aCOMPONENT-660,aCOMPONENT-661,aCOMPONENT-662,aCOMPONENT-663,aCOMPONENT-664,aCOMPONENT-665",
    "aCOMPONENT-666,aCOMPONENT-667,aCOMPONENT-668,aCOMPONENT-669,aCOMPONENT-670,aCOMPONENT-671,aCOMPONENT-672",
    "aCOMPONENT-673,aCOMPONENT-674,aCOMPONENT-675,aCOMPONENT-676,aCOMPONENT-677,aCOMPONENT-678,aCOMPONENT-679",
    "aCOMPONENT-680,aCOMPONENT-681,aCOMPONENT-682,aCOMPONENT-683,aCOMPONENT-684,aCOMPONENT-685,aCOMPONENT-686",
    "aCOMPONENT-687,aCOMPONENT-688,aCOMPONENT-689,aCOMPONENT-690,aCOMPONENT-691,aCOMPONENT-692,aCOMPONENT-693",
    "aCOMPONENT-694,aCOMPONENT-695,aCOMPONENT-696,aCOMPONENT-697,aCOMPONENT-698,aCOMPONENT-699,aCOMPONENT-700",
    "aCOMPONENT-701,aCOMPONENT-702,aCOMPONENT-703,aCOMPONENT-704,aCOMPONENT-705,aCOMPONENT-706,aCOMPONENT-707",
    "aCOMPONENT-708,aCOMPONENT-709,aCOMPONENT-710,aCOMPONENT-711,aCOMPONENT-712,aCOMPONENT-713,aCOMPONENT-714",
    "aCOMPONENT-715,aCOMPONENT-716,aCOMPONENT-717,aCOMPONENT-718,aCOMPONENT-719,aCOMPONENT-720,aCOMPONENT-721",
    "aCOMPONENT-722,aCOMPONENT-723,aCOMPONENT-724,aCOMPONENT-725,aCOMPONENT-726,aCOMPONENT-727,aCOMPONENT-728",
    "aCOMPONENT-729,aCOMPONENT-730,aCOMPONENT-731,aCOMPONENT-732,aCOMPONENT-733,aCOMPONENT-734,aCOMPONENT-735",
    "aCOMPONENT-736,aCOMPONENT-737,aCOMPONENT-738,aCOMPONENT-739,aCOMPONENT-740,aCOMPONENT-741,aCOMPONENT-742",
    "aCOMPONENT-743,aCOMPONENT-744,aCOMPONENT-745,aCOMPONENT-746,aCOMPONENT-747,aCOMPONENT-748,aCOMPONENT-749",
    "aCOMPONENT-750,aCOMPONENT-751,aCOMPONENT-752,aCOMPONENT-753,aCOMPONENT-754,aCOMPONENT-755,aCOMPONENT-756",
    "aCOMPONENT-757,aCOMPONENT-758,aCOMPONENT-759,aCOMPONENT-760,aCOMPONENT-761,aCOMPONENT-762,aCOMPONENT-763",
    "aCOMPONENT-764,aCOMPONENT-765,aCOMPONENT-766,aCOMPONENT-767,aCOMPONENT-768"]),
  (0x1AFF0, ["KATAKANA LETTER MINNAN TONE-2,cTONE-3,cTONE-4,cTONE-5,,cTONE-7,cTONE-8,cNASALIZED TONE-1,dTONE-2",
    "dTONE-3,dTONE-4,dTONE-5,,dTONE-7,dTONE-8"]),
  (0x1B000, ["KATAKANA LETTER ARCHAIC E,HIRAGANA LETTER ARCHAIC YE,HENTAIGANA LETTER A-1,bA-2,bA-3,bA-WO,bI-1,bI-2",
    "bI-3,bI-4,bU-1,bU-2,bU-3,bU-4,bU-5,bE-2,bE-3,bE-4,bE-5,bE-6,bO-1,bO-2,bO-3,bKA-1,bKA-2,bKA-3,bKA-4,bKA-5,bKA-6",
    "bKA-7,bKA-8,bKA-9,bKA-10,bKA-11,bKA-KE,bKI-1,bKI-2,bKI-3,bKI-4,bKI-5,bKI-6,bKI-7,bKI-8,bKU-1,bKU-2,bKU-3,bKU-4",
    "bKU-5,bKU-6,bKU-7,bKE-1,bKE-2,bKE-3,bKE-4,bKE-5,bKE-6,bKO-1,bKO-2,bKO-3,bKO-KI,bSA-1,bSA-2,bSA-3,bSA-4,bSA-5",
    "bSA-6,bSA-7,bSA-8,bSI-1,bSI-2,bSI-3,bSI-4,bSI-5,bSI-6,bSU-1,bSU-2,bSU-3,bSU-4,bSU-5,bSU-6,bSU-7,bSU-8,bSE-1",
    "bSE-2,bSE-3,bSE-4,bSE-5,bSO-1,bSO-2,bSO-3,bSO-4,bSO-5,bSO-6,bSO-7,bTA-1,bTA-2,bTA-3,bTA-4,bTI-1,bTI-2,bTI-3",
    "bTI-4,bTI-5,bTI-6,bTI-7,bTU-1,bTU-2,bTU-3,bTU-4,bTU-TO,bTE-1,bTE-2,bTE-3,bTE-4,bTE-5,bTE-6,bTE-7,bTE-8,bTE-9",
    "bTO-1,bTO-2,bTO-3,bTO-4,bTO-5,bTO-6,bTO-RA,bNA-1,bNA-2,bNA-3,bNA-4,bNA-5,bNA-6,bNA-7,bNA-8,bNA-9,bNI-1,bNI-2",
    "bNI-3,bNI-4,bNI-5,bNI-6,bNI-7,bNI-TE,bNU-1,bNU-2,bNU-3,bNE-1,bNE-2,bNE-3,bNE-4,bNE-5,bNE-6,bNE-KO,bNO-1,bNO-2",
    "bNO-3,bNO-4,bNO-5,bHA-1,bHA-2,bHA-3,bHA-4,bHA-5,bHA-6,bHA-7,bHA-8,bHA-9,bHA-10,bHA-11,bHI-1,bHI-2,bHI-3,bHI-4",
    "bHI-5,bHI-6,bHI-7,bHU-1,bHU-2,bHU-3,bHE-1,bHE-2,bHE-3,bHE-4,bHE-5,bHE-6,bHE-7,bHO-1,bHO-2,bHO-3,bHO-4,bHO-5",
    "bHO-6,bHO-7,bHO-8,bMA-1,bMA-2,bMA-3,bMA-4,bMA-5,bMA-6,bMA-7,bMI-1,bMI-2,bMI-3,bMI-4,bMI-5,bMI-6,bMI-7,bMU-1",
    "bMU-2,bMU-3,bMU-4,bME-1,bME-2,bME-MA,bMO-1,bMO-2,bMO-3,bMO-4,bMO-5,bMO-6,bYA-1,bYA-2,bYA-3,bYA-4,bYA-5,bYA-YO",
    "bYU-1,bYU-2,bYU-3,bYU-4,bYO-1,bYO-2,bYO-3,bYO-4,bYO-5,bYO-6,bRA-1,bRA-2,bRA-3,bRA-4,bRI-1,bRI-2,bRI-3,bRI-4",
    "bRI-5,bRI-6,bRI-7,bRU-1,bRU-2,bRU-3,bRU-4,bRU-5,bRU-6,bRE-1,bRE-2"]),
  (0x1B100, ["HENTAIGANA LETTER RE-3,bRE-4,bRO-1,bRO-2,bRO-3,bRO-4,bRO-5,bRO-6,bWA-1,bWA-2,bWA-3,bWA-4,bWA-5,bWI-1",
    "bWI-2,bWI-3,bWI-4,bWI-5,bWE-1,bWE-2,bWE-3,bWE-4,bWO-1,bWO-2,bWO-3,bWO-4,bWO-5,bWO-6,bWO-7,bN-MU-MO-1,bN-MU-MO-2",
    "HIRAGANA LETTER ARCHAIC WU,KATAKANA LETTER ARCHAIC YI,cYE,cWU"]),
  (0x1B150, ["HIRAGANA LETTER SMALL WI,cWE,cWO"]),
  (0x1B164, ["KATAKANA LETTER SMALL WI,cWE,cWO,cN"]),
  (0x1BC00, ["DUPLOYAN LETTER H,bX,bP,bT,bF,bK,bL,bB,bD,bV,bG,bR,bP N,bD S,bF N,bK M,bR S,bTH,bSLOAN DH,ba,bKK",
    "bSLOAN J,bHL,bLH,bRH,bM,bN,bJ,bS,bM N,bN M,bJa,bS J,bM WITH DOT,bNb,bJb,dDOTS INSIDE AND ABOVE,bS WITH DOT",
    "eBELOW,bM S,bNa,bJa,bSa,bM Na,bN Ma,bJb,bS Ja,bJ S WITH DOT,cN,dS,bS T,dR,cP,dR,bT S,cRa,bW,bWH,bW R,bS N,cM",
    "bK R S,bGb,bS K,dR,bA,bSLOAN OW,bOA,bO,bAOU,bI,bE,bIE,bSHORT I,bUI,bEE,bSLOAN EH,bROMANIAN I,bSLOAN EE,bLONG I",
    "bYE,bU,bEU,bXW,bU N,bLONG U,bROMANIANa,bUH,bSLOAN U,bOOH,bOW,bOU,bWA,bWO,bWI,bWEI,bWOW,bNASAL U,cO,cI,cA",
    "bPERNIN AN,cAM,bSLOAN EN,cAN,cON,bVOCALIC M"]),
  (0x1BC70, ["DUPLOYAN AFFIX LEFT HORIZONTAL SECANT,bMIDb,bRIGHTb,bLOW VERTICALa,bMIDb,bHIGHb,bATTACHEDa",
    "cLEFT-TO-RIGHTa,cTANGENT,cTAIL,cE HOOK,cIa,cTANGENTa,,,,bHIGH ACUTE,cTIGHTa,cGRAVE,cLONGa,cDOT,cCIRCLE,cLINE",
    "cWAVE,cVERTICAL"]),
  (0x1BC90, ["DUPLOYAN AFFIX LOW ACUTE,cTIGHTa,cGRAVE,cLONGa,cDOT,cCIRCLE,cLINE,cWAVE,cVERTICAL,cARROW,,",
    "aSIGN O WITH CROSS,aTHICK LETTER SELECTOR,aDOUBLE MARK,aPUNCTUATION CHINOOK FULL STOP",
    "SHORTHAND FORMAT LETTER OVERLAP,bCONTINUINGa,bDOWN STEP,bUPa"]),
  (0x1CF00, ["ZNAMENNY COMBINING MARK GORAZDO NIZKO S KRYZHEM ON LEFT,ce,cTSATAb,cGORAZDO NIZKOb,cc,cSREDNEb",
    "cMALO POVYSHEb,cc,cVYSOKOb,cMALO POVYSHE S KHOKHLOMb,ce,cVYSOKOd,cGORAZDO NIZKO S KRYZHEM ON RIGHT,ce,cTSATAb",
    "cGORAZDO NIZKOb,cc,cSREDNEb,cMALO POVYSHEb,cc,cVYSOKOb,cMALO POVYSHE S KHOKHLOMb,ce,cVYSOKOd,cTSATA S KRYZHEM",
    "cMALO POVYSHEb,cSTRANNO MALO POVYSHE,cPOVYSHE S KRYZHEM,dSTRANNO,cVYSOKO S KRYZHEM,cMALO POVYSHE STRANNO",
    "cGORAZDO VYSOKO,cZELO,cON,cRAVNO,cTIKHAYA,cBORZAYA,cUDARKA,cPODVERTKA,cLOMKA,cKUPNAYA,cKACHKA,cZEVOK,cSKOBA",
    "cRAZSEKA,cKRYZH ON LEFT,,,bTONAL RANGE MARK MRACHNO,eSVETLO,eTRESVETLO,bMARK ZADERZHKA,cDEMESTVENNYa,cOTSECHKA",
    "cPODCHASHIE,dWITH VERTICAL STROKE,cCHASHKA,dPOLNAYA,cOBLACHKO,cSOROCHYA NOZHKA,cTOCHKA,cDVOETOCHIE",
    "bATTACHING VERTICAL OMET,bMARK CURVEDa,cKRYZH,bLOWER TONAL RANGE INDICATOR,aPRIZNAK MODIFIER LEVEL-2,cLEVEL-3",
    "cDIRECTION FLIP,cKRYZH,cROG"]),
  (0x1CF50, ["ZNAMENNY NEUME KRYUK,cTIKHY,bPARAKLIT,bDVA V CHELNU,bKLYUCH,bZANOZHEK,bSTOPITSA,cS OCHKOM,bPEREVODKA",
    "cNEPOSTOYANNAYA,bSTOPITSA WITH SOROCHYA NOZHKA,bCHELYUSTKA,bPALKA,bZAPYATAYA,bGOLUBCHIK BORZY,cTIKHY,cMRACHNY",
    "cSVETLY,cTRESVETLY,bVRAKHIYA PROSTAYA,cMRACHNAYA,cSVETLAYA,cTRESVETLAYA,cKLYUCHEVAYA PROSTAYA,dMRACHNAYA",
    "dSVETLAYA,dTRESVETLAYA,bDOUBLE ZAPYATAYA,bREVERSED CHELYUSTKA,bDERBITSA,bKHAMILO,bCHASHKA,bPODCHASHIE",
    "bSKAMEYTSA MRACHNAYA,cSVETLAYA,cTRESVETLAYA,cTIKHAYA,bDEMESTVENNY KLYUCH,bSKAMEYTSA KLYUCHEVAYA SVETLAYA",
    "cKLYUCHENEPOSTOYANNAYA,cKLYUCHEVAYA TIKHAYA,cDVOECHELNAYA PROSTAYA,dSVETLAYA,dNEPOSTOYANNAYA,dKLYUCHEVAYA",
    "bSLOZHITIE,cS ZAPYATOY,cZAKRYTOE,cS KRYZHEM,bKRYZH,bROG,bFITA,bKOBYLA,bZMEYTSA,bSTATYA,cS ZAPYATOY,dKRYZHEM",
    "dZAPYATOY Ia,dKRYZHEM I ZAPYATOY,cZAKRYTAYA,dS ZAPYATOY,cS ROGOM,dDVUMYA ZAPYATYMI,dZAPYATOY I PODCHASHIEM",
    "bPOLKULIZMY,bSTATYA NEPOSTOYANNAYA,bSTRELA PROSTAYA,cMRACHNOTIKHAYA,cKRYZHEVAYA,cPOLUPOVODNAYA,cPOVODNAYA",
    "cNEPOSTOYANNAYA,cKLYUCHEPOVODNAYA,cKLYUCHENEPOSTOYANNAYA,cTIKHAYA PUTNAYA,cDVOECHELNAYA,cDVOECHELNOKRYZHEVAYA",
    "cDVOECHELNOPOVODNAYA,cDVOECHELNAYA KLYUCHEVAYA,cDVOECHELNOPOVODNAYAa,cGROMNAYA WITH SINGLE ZAPYATAYA",
    "cGROMOPOVODNAYAc,cGROMNAYA,cGROMOPOVODNAYA,dWITH DOUBLE ZAPYATAYA,cGROMOKRYZHEVAYA,dPOVODNAYA,bMECHIK,cPOVODNY",
    "cKLYUCHEVOY,cKLYUCHEPOVODNY,cKLYUCHENEPOSTOYANNY,bSTRELA TRYASOGLASNAYA,cTRYASOPOVODNAYA,cTRYASOSTRELNAYA",
    "bOSOKA,cSVETLAYA,cTRESVETLAYA,cKRYUKOVAYA SVETLAYA,cKLYUCHEVAYAa,dNEPOSTOYANNAYA,bSTRELA KRYUKOVAYA,dPOVODNAYA",
    "dGROMNAYA WITH SINGLE ZAPYATAYA,dGROMOPOVODNAYAc,dGROMNAYA,dGROMOPOVODNAYA,eWITH DOUBLE ZAPYATAYA",
    "dGROMOKRYZHEVAYA,ePOVODNAYA,dTRYASKA,bKUFISMA,bOBLAKO,bDUDA,bNEMKA,bPAUK"])]

end TagRules.CharacterName
