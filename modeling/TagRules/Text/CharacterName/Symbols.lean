/-!
Names of punctuation, arrows, mathematical signs and other symbols.
-/
namespace TagRules.CharacterName

/-- Rows of names, each with the code of its first name. -/
def symbols : List (Nat × List String) := [
  (0x2000, ["EN QUAD,EMa,EN SPACE,EMa,THREE-PER-EMa,FOUR-PER-EMa,SIX-PER-EMa,FIGUREa,PUNCTUATIONa,THINa,HAIRa",
    "ZERO WIDTHa,bNON-JOINER,bJOINER,LEFT-TO-RIGHT MARK,RIGHT-TO-LEFTa,HYPHEN,NON-BREAKINGa,FIGURE DASH,ENa,EMa",
    "HORIZONTAL BAR,DOUBLE VERTICAL LINE,aLOWa,LEFT SINGLE QUOTATION MARK,RIGHTc,SINGLE LOW-9b,aHIGH-REVERSED-9b",
    "LEFT DOUBLEb,RIGHTc,DOUBLE LOW-9b,aHIGH-REVERSED-9b,DAGGER,DOUBLEa,BULLET,TRIANGULARa,ONE DOT LEADER,TWOb",
    "HORIZONTAL ELLIPSIS,HYPHENATION POINT,LINE SEPARATOR,PARAGRAPHa,LEFT-TO-RIGHT EMBEDDING,RIGHT-TO-LEFTa",
    "POP DIRECTIONAL FORMATTING,LEFT-TO-RIGHT OVERRIDE,RIGHT-TO-LEFTa,NARROW NO-BREAK SPACE,PER MILLE SIGN",
    "aTEN THOUSANDa,PRIME,DOUBLEa,TRIPLEa,REVERSEDa,aDOUBLEa,aTRIPLEa,CARET",
    "SINGLE LEFT-POINTING ANGLE QUOTATION MARK,aRIGHT-POINTINGc,REFERENCEa,DOUBLE EXCLAMATIONa,INTERROBANG,OVERLINE",
    "UNDERTIE,CHARACTER TIE,CARET INSERTION POINT,ASTERISM,HYPHEN BULLET,FRACTION SLASH",
    "LEFT SQUARE BRACKET WITH QUILL,RIGHTd,DOUBLE QUESTION MARK,QUESTION EXCLAMATIONa,EXCLAMATION QUESTIONa",
    "TIRONIAN SIGN ET,REVERSED PILCROW SIGN,BLACK LEFTWARDS BULLET,aRIGHTWARDSa,LOW ASTERISK,REVERSED SEMICOLON",
    "CLOSE UP,TWO ASTERISKS ALIGNED VERTICALLY,COMMERCIAL MINUS SIGN,SWUNG DASH,INVERTED UNDERTIE",
    "FLOWER PUNCTUATION MARK,THREE DOT PUNCTUATION,QUADRUPLE PRIME,FOUR DOT PUNCTUATION,FIVEb,TWOb,FOUR DOT MARK",
    "DOTTED CROSS,TRICOLON,VERTICAL FOUR DOTS,MEDIUM MATHEMATICAL SPACE,WORD JOINER,FUNCTION APPLICATION",
    "INVISIBLE TIMES,aSEPARATOR,aPLUS,,LEFT-TO-RIGHT ISOLATE,RIGHT-TO-LEFTa,FIRST STRONGa,POP DIRECTIONALa",
    "INHIBIT SYMMETRIC SWAPPING,ACTIVATEb,INHIBIT ARABIC FORM SHAPING,ACTIVATEc,NATIONAL DIGIT SHAPES,NOMINALb",
    "SUPERSCRIPT ZERO,aLATIN SMALL LETTER I,,,aFOUR,aFIVE,aSIX,aSEVEN,aEIGHT,aNINE,aPLUS SIGN,aMINUS,aEQUALS SIGN",
    "aLEFT PARENTHESIS,aRIGHTa,aLATIN SMALL LETTER N,SUBSCRIPT ZERO,aONE,aTWO,aTHREE,aFOUR,aFIVE,aSIX,aSEVEN,aEIGHT",
    "aNINE,aPLUS SIGN,aMINUS,aEQUALS SIGN,aLEFT PARENTHESIS,aRIGHTa,,LATIN SUBSCRIPT SMALL LETTER A,dE,dO,dX,dSCHWA",
    "dH,dK,dL,dM,dN,dP,dS,dT,,,,EURO-CURRENCY SIGN,COLONa,CRUZEIROa,FRENCH FRANCa,LIRAa,MILLa,NAIRAa,PESETAa,RUPEEa",
    "WONa,NEW SHEQELa,DONGa,EUROa,KIPa,TUGRIKa,DRACHMAa,GERMAN PENNYa,PESOa,GUARANIa,AUSTRALa,HRYVNIAa,CEDIa",
    "LIVRE TOURNOISa,SPESMILOa,TENGEa,INDIAN RUPEEa,TURKISH LIRAa,NORDIC MARKa,MANATa,RUBLEa,LARIa,BITCOINa,SOMa"]),
  (0x20D0, ["COMBINING LEFT HARPOON ABOVE,aRIGHTb,aLONG VERTICAL LINE OVERLAY,aSHORTc,aANTICLOCKWISE ARROW ABOVE",
    "aCLOCKWISEb,aLEFTb,aRIGHTb,aRING OVERLAY,aCLOCKWISEb,aANTICLOCKWISEb,aTHREE DOTS ABOVE,aFOURb,aENCLOSING CIRCLE",
    "bSQUARE,bDIAMOND,bCIRCLE BACKSLASH,aLEFT RIGHT ARROW ABOVE,aENCLOSING SCREEN,bKEYCAP,bUPWARD POINTING TRIANGLE",
    "aREVERSE SOLIDUS OVERLAY,aDOUBLE VERTICAL STROKEa,aANNUITY SYMBOL,aTRIPLE UNDERDOT,aWIDE BRIDGE ABOVE",
    "aLEFTWARDS ARROW OVERLAY,aLONG DOUBLE SOLIDUSa,aRIGHTWARDS HARPOON WITH BARB DOWNWARDS,aLEFTWARDSd",
    "aLEFT ARROW BELOW,aRIGHTb,aASTERISK ABOVE"]),
  (0x2100, ["ACCOUNT OF,ADDRESSED TO THE SUBJECT,DOUBLE-STRUCK CAPITAL C,DEGREE CELSIUS,CENTRE LINE SYMBOL,CARE OF",
    "CADA UNA,EULER CONSTANT,SCRUPLE,DEGREE FAHRENHEIT,SCRIPT SMALL G,aCAPITAL H,BLACK-LETTERb,DOUBLE-STRUCKb",
    "PLANCK CONSTANT,bOVER TWO PI,SCRIPT CAPITAL I,BLACK-LETTERb,SCRIPT CAPITAL L,aSMALLa,L B BAR SYMBOL",
    "DOUBLE-STRUCK CAPITAL N,NUMERO SIGN,SOUND RECORDING COPYRIGHT,SCRIPT CAPITAL P,DOUBLE-STRUCKb,bQ",
    "SCRIPT CAPITAL R,BLACK-LETTERb,DOUBLE-STRUCKb,PRESCRIPTION TAKE,RESPONSE,SERVICE MARK,TELEPHONE SIGN",
    "TRADE MARKa,VERSICLE,DOUBLE-STRUCK CAPITAL Z,OUNCE SIGN,OHMa,INVERTEDb,BLACK-LETTER CAPITAL Z",
    "TURNED GREEK SMALL LETTER IOTA,KELVIN SIGN,ANGSTROMa,SCRIPT CAPITAL B,BLACK-LETTER CAPITAL C,ESTIMATED SYMBOL",
    "SCRIPT SMALL E,aCAPITALa,bF,TURNEDb,SCRIPT CAPITAL M,aSMALL O,ALEF SYMBOL,BETa,GIMELa,DALETa,INFORMATION SOURCE",
    "ROTATED CAPITAL Q,FACSIMILE SIGN,DOUBLE-STRUCK SMALL PI,bGAMMA,aCAPITALa,bPI,aN-ARY SUMMATION",
    "TURNED SANS-SERIF CAPITAL G,cL,REVERSEDc,TURNED SANS-SERIF CAPITAL Y,DOUBLE-STRUCK ITALIC CAPITAL D,bSMALLa,cE",
    "cI,cJ,PROPERTY LINE,TURNED AMPERSAND,PER SIGN,AKTIESELSKAB,TURNED SMALL F,SYMBOL FOR SAMARITAN SOURCE",
    "VULGAR FRACTION ONE SEVENTH,cNINTH,cTENTH,cTHIRD,bTWO THIRDS,bONE FIFTH,bTWO FIFTHS,bTHREEa,bFOURa,bONE SIXTH",
    "bFIVE SIXTHS,bONE EIGHTH,bTHREE EIGHTHS,bFIVEa,bSEVENa,FRACTION NUMERATOR ONE,ROMAN NUMERALa,bTWO,bTHREE,bFOUR",
    "bFIVE,bSIX,bSEVEN,bEIGHT,bNINE,bTEN,bELEVEN,bTWELVE,bFIFTY,bONE HUNDRED,bFIVEa,bONE THOUSAND",
    "SMALL ROMAN NUMERAL ONE,cTWO,cTHREE,cFOUR,cFIVE,cSIX,cSEVEN,cEIGHT,cNINE,cTEN,cELEVEN,cTWELVE,cFIFTY",
    "cONE HUNDRED,cFIVEa,cONE THOUSAND,ROMAN NUMERAL ONE THOUSAND C D,bFIVE THOUSAND,bTENa,bREVERSED ONE HUNDRED",
    "LATIN SMALL LETTER REVERSED C,ROMAN NUMERAL SIX LATE FORM,bFIFTY EARLYa,cTHOUSAND,bONE HUNDREDa",
    "VULGAR FRACTION ZERO THIRDS,TURNED DIGIT TWO,bTHREE"]),
  (0x2190, ["LEFTWARDS ARROW,UPWARDSa,RIGHTWARDSa,DOWNWARDSa,LEFT RIGHTa,UP DOWNa,NORTH WESTa,aEASTa,SOUTHb,aWESTa",
    "LEFTWARDS ARROW WITH STROKE,RIGHTWARDSc,LEFTWARDS WAVE ARROW,RIGHTWARDSb,LEFTWARDS TWO HEADEDa,UPWARDSc",
    "RIGHTWARDSc,DOWNWARDSc,LEFTWARDS ARROW WITH TAIL,RIGHTWARDSc,LEFTWARDS ARROW FROM BAR,UPWARDSc,RIGHTWARDSc",
    "DOWNWARDSc,UP DOWN ARROW WITH BASE,LEFTWARDS ARROW WITH HOOK,RIGHTWARDSc,LEFTWARDS ARROW WITH LOOP,RIGHTWARDSc",
    "LEFT RIGHT WAVE ARROW,bARROW WITH STROKE,DOWNWARDS ZIGZAG ARROW,UPWARDS ARROW WITH TIP LEFTWARDS,dRIGHTWARDS",
    "DOWNWARDS ARROW WITH TIP LEFTWARDS,dRIGHTWARDS,RIGHTWARDS ARROW WITH CORNER DOWNWARDS",
    "DOWNWARDS ARROW WITH CORNER LEFTWARDS,ANTICLOCKWISE TOP SEMICIRCLE ARROW,CLOCKWISEc",
    "NORTH WEST ARROW TO LONG BAR,LEFTWARDS ARROW TO BAR OVER RIGHTWARDS ARROW TOa,ANTICLOCKWISE OPEN CIRCLE ARROW",
    "CLOCKWISEc,LEFTWARDS HARPOON WITH BARB UPWARDS,dDOWNWARDS,UPWARDS HARPOON WITH BARB RIGHTWARDS,dLEFTWARDS",
    "RIGHTWARDS HARPOON WITH BARB UPWARDS,dDOWNWARDS,DOWNWARDS HARPOON WITH BARB RIGHTWARDS,dLEFTWARDS",
    "RIGHTWARDS ARROW OVER LEFTWARDS ARROW,UPWARDS ARROW LEFTWARDS OF DOWNWARDSa,LEFTWARDS ARROW OVER RIGHTWARDSa",
    "aPAIRED ARROWS,UPWARDSb,RIGHTWARDSb,DOWNWARDSb,LEFTWARDS HARPOON OVER RIGHTWARDS HARPOON",
    "RIGHTWARDS HARPOON OVER LEFTWARDSa,LEFTWARDS DOUBLE ARROW WITH STROKE,LEFT RIGHTd,RIGHTWARDSd",
    "LEFTWARDS DOUBLE ARROW,UPWARDSb,RIGHTWARDSb,DOWNWARDSb,LEFT RIGHTb,UP DOWNb,NORTH WESTb,aEASTb,SOUTHc,aWESTb",
    "LEFTWARDS TRIPLEa,RIGHTWARDSb,LEFTWARDS SQUIGGLEa,RIGHTWARDSb,UPWARDS ARROW WITH DOUBLE STROKE,DOWNWARDSd",
    "LEFTWARDS DASHED ARROW,UPWARDSb,RIGHTWARDSb,DOWNWARDSb,LEFTWARDS ARROW TO BAR,RIGHTWARDSc,LEFTWARDS WHITE ARROW",
    "UPWARDSb,RIGHTWARDSb,DOWNWARDSb,UPWARDS WHITE ARROW FROM BAR,cON PEDESTAL,eWITH HORIZONTAL BAR,fVERTICALa",
    "bDOUBLE ARROW,dON PEDESTAL,RIGHTWARDS WHITE ARROW FROM WALL,NORTH WEST ARROW TO CORNER,SOUTH EASTc",
    "UP DOWN WHITE ARROW,RIGHT ARROW WITH SMALL CIRCLE,DOWNWARDS ARROW LEFTWARDS OF UPWARDS ARROW",
    "THREE RIGHTWARDS ARROWS,LEFTWARDS ARROW WITH VERTICAL STROKE,RIGHTWARDSd,LEFT RIGHTd",
    "LEFTWARDS ARROW WITH DOUBLEb,RIGHTWARDSe,LEFT RIGHTe,LEFTWARDS OPEN-HEADED ARROW,RIGHTWARDSb,LEFT RIGHTb"]),
  (0x2200, ["FOR ALL,COMPLEMENT,PARTIAL DIFFERENTIAL,THERE EXISTS,aDOES NOT EXIST,EMPTY SET,INCREMENT,NABLA",
    "ELEMENT OF,NOT ANb,SMALLb,CONTAINS AS MEMBER,DOES NOT CONTAINb,SMALL CONTAINSb,END OF PROOF,N-ARY PRODUCT",
    "aCOPRODUCT,aSUMMATION,MINUS SIGN,MINUS-OR-PLUSa,DOT PLUS,DIVISION SLASH,SET MINUS,ASTERISK OPERATOR,RINGa",
    "BULLETa,SQUARE ROOT,CUBEa,FOURTHa,PROPORTIONAL TO,INFINITY,RIGHT ANGLE,ANGLE,MEASUREDa,SPHERICALa,DIVIDES",
    "DOES NOT DIVIDE,PARALLEL TO,NOTb,LOGICAL AND,aOR,INTERSECTION,UNION,INTEGRAL,DOUBLEa,TRIPLEa,CONTOURa,SURFACEa",
    "VOLUMEa,CLOCKWISEa,aCONTOURa,ANTICLOCKWISEb,THEREFORE,BECAUSE,RATIO,PROPORTION,DOT MINUS,EXCESS",
    "GEOMETRIC PROPORTION,HOMOTHETIC,TILDE OPERATOR,REVERSED TILDE,INVERTED LAZY S,SINE WAVE,WREATH PRODUCT",
    "NOT TILDE,MINUSa,ASYMPTOTICALLY EQUAL TO,NOTc,APPROXIMATELYb,aBUT NOT ACTUALLYb,NEITHER APPROXIMATELY NORc",
    "ALMOSTb,NOTc,ALMOST EQUAL ORb,TRIPLE TILDE,ALL EQUAL TO,EQUIVALENTa,GEOMETRICALLYb,DIFFERENCE BETWEEN",
    "APPROACHES THE LIMIT,GEOMETRICALLY EQUAL TO,APPROXIMATELY EQUAL TO OR THE IMAGE OF",
    "IMAGE OF OR APPROXIMATELY EQUAL TO,COLON EQUALS,EQUALS COLON,RING IN EQUAL TO,ab,CORRESPONDSa,ESTIMATES",
    "EQUIANGULAR TO,STAR EQUALS,DELTA EQUAL TO,EQUAL TO BY DEFINITION,MEASURED BY,QUESTIONED EQUAL TO,NOTb",
    "IDENTICALa,NOTb,STRICTLY EQUIVALENTa,LESS-THAN OR EQUALa,GREATER-THANc,LESS-THAN OVERb,GREATER-THANc",
    "LESS-THAN BUT NOTb,GREATER-THANd,MUCH LESS-THAN,aGREATER-THAN,BETWEEN,NOT EQUIVALENT TO,aLESS-THAN",
    "aGREATER-THAN,NEITHER LESS-THAN NOR EQUAL TO,aGREATER-THANc,LESS-THAN OR EQUIVALENTa,GREATER-THANc",
    "NEITHER LESS-THAN NORb,aGREATER-THANc,LESS-THAN OR GREATER-THAN,GREATER-THAN OR LESS-THAN",
    "NEITHER LESS-THAN NOR GREATER-THAN,aGREATER-THAN NOR LESS-THAN,PRECEDES,SUCCEEDS,PRECEDES OR EQUAL TO,SUCCEEDSc",
    "PRECEDES OR EQUIVALENTa,SUCCEEDSc,DOES NOT PRECEDE,bSUCCEED,SUBSET OF,SUPERSETa,NOT A SUBSETa,bSUPERSETa",
    "SUBSET OF OR EQUAL TO,SUPERSETd,NEITHER A SUBSET OF NORb,bSUPERSETd,SUBSET OF WITH NOTb,SUPERSETe,MULTISET",
    "aMULTIPLICATION,aUNION,SQUARE IMAGE OF,aORIGINALa,aIMAGE OF OR EQUAL TO,aORIGINALd,aCAP,aCUP,CIRCLED PLUS",
    "aMINUS,aTIMES,aDIVISION SLASH,aDOT OPERATOR,aRINGa,aASTERISKa,aEQUALS,aDASH,SQUARED PLUS,aMINUS,aTIMES",
    "aDOT OPERATOR,RIGHT TACK,LEFTa,DOWNa,UPa,ASSERTION,MODELS,TRUE,FORCES,TRIPLE VERTICAL BAR RIGHT TURNSTILE",
    "DOUBLE VERTICAL BAR DOUBLEb,DOES NOT PROVE,NOT TRUE,DOES NOT FORCE",
    "NEGATED DOUBLE VERTICAL BAR DOUBLE RIGHT TURNSTILE,PRECEDES UNDER RELATION,SUCCEEDSb,NORMAL SUBGROUP OF",
    "CONTAINS AS NORMAL SUBGROUP,NORMAL SUBGROUP OF OR EQUAL TO,CONTAINS AS NORMAL SUBGROUPc,ORIGINAL OF,IMAGEa",
    "MULTIMAP,HERMITIAN CONJUGATE MATRIX,INTERCALATE,XOR,NAND,NOR,RIGHT ANGLE WITH ARC,aTRIANGLE,N-ARY LOGICAL AND",
    "bOR,aINTERSECTION,aUNION,DIAMOND OPERATOR,DOTa,STARa,DIVISION TIMES,BOWTIE",
    "LEFT NORMAL FACTOR SEMIDIRECT PRODUCT,RIGHTd,LEFTb,RIGHTb,REVERSED TILDE EQUALS,CURLY LOGICAL OR,bAND",
    "DOUBLE SUBSET,aSUPERSET,aINTERSECTION,aUNION,PITCHFORK,EQUAL AND PARALLEL TO,LESS-THAN WITH DOT,GREATER-THANb",
    "VERY MUCH LESS-THAN,bGREATER-THAN,LESS-THAN EQUAL TO ORa,GREATER-THAN EQUAL TO OR LESS-THAN",
    "EQUAL TO OR LESS-THAN,cGREATER-THAN,cPRECEDES,cSUCCEEDS,DOES NOT PRECEDE OR EQUAL,bSUCCEEDb",
    "NOT SQUARE IMAGE OF OR EQUAL TO,bORIGINALd,SQUARE IMAGE OF OR NOTb,aORIGINALe,LESS-THAN BUT NOT EQUIVALENTa",
    "GREATER-THANd,PRECEDESd,SUCCEEDSd,NOT NORMAL SUBGROUP OF,DOES NOT CONTAIN AS NORMAL SUBGROUP",
    "NOT NORMAL SUBGROUP OF OR EQUAL TO,DOES NOT CONTAIN AS NORMAL SUBGROUP OR EQUAL,VERTICAL ELLIPSIS",
    "MIDLINE HORIZONTALa,UP RIGHT DIAGONALa,DOWNc,ELEMENT OF WITH LONG HORIZONTAL STROKE,cVERTICAL BAR AT END OFb",
    "SMALLj,ELEMENT OF WITH DOT ABOVE,cOVERBAR,SMALLd,ELEMENT OF WITH UNDERBAR,cTWO HORIZONTAL STROKES",
    "CONTAINS WITH LONG HORIZONTAL STROKE,bVERTICAL BAR AT END OFb,SMALLi,CONTAINS WITH OVERBAR,SMALLc",
    "Z NOTATION BAG MEMBERSHIP"]),
  (0x2300, ["DIAMETER SIGN,ELECTRIC ARROW,HOUSE,UP ARROWHEAD,DOWNa,PROJECTIVE,PERSPECTIVE,WAVY LINE,LEFT CEILING",
    "RIGHTa,LEFT FLOOR,RIGHTa,BOTTOM RIGHT CROP,aLEFTa,TOP RIGHTa,aLEFTa,REVERSED NOT SIGN,SQUARE LOZENGE,ARC",
    "SEGMENT,SECTOR,TELEPHONE RECORDER,POSITION INDICATOR,VIEWDATA SQUARE,PLACE OF INTEREST SIGN,TURNED NOTa,WATCH",
    "HOURGLASS,TOP LEFT CORNER,aRIGHTa,BOTTOM LEFTa,aRIGHTa,TOP HALF INTEGRAL,BOTTOMb,FROWN,SMILE",
    "UP ARROWHEAD BETWEEN TWO HORIZONTAL BARS,OPTION KEY,ERASE TO THE RIGHT,X IN A RECTANGLE BOX,KEYBOARD",
    "LEFT-POINTING ANGLE BRACKET,RIGHT-POINTINGb,ERASE TO THE LEFT,BENZENE RING,CYLINDRICITY,ALL AROUND-PROFILE",
    "SYMMETRY,TOTAL RUNOUT,DIMENSION ORIGIN,CONICAL TAPER,SLOPE,COUNTERBORE,COUNTERSINK,APL FUNCTIONAL SYMBOL I-BEAM",
    "cSQUISH QUAD,cQUAD EQUAL,dDIVIDE,dDIAMOND,dJOT,dCIRCLE,cCIRCLE STILE,dJOT,cSLASH BAR,cBACKSLASHa,cQUAD SLASH",
    "dBACKSLASH,dLESS-THAN,dGREATER-THAN,cLEFTWARDS VANE,cRIGHTWARDSa,cQUAD LEFTWARDS ARROW,dRIGHTWARDSa",
    "cCIRCLE BACKSLASH,cDOWN TACK UNDERBAR,cDELTA STILE,cQUAD DOWN CARET,dDELTA,cDOWN TACK JOT,cUPWARDS VANE",
    "cQUAD UPWARDS ARROW,cUP TACK OVERBAR,cDEL STILE,cQUAD UP CARET,dDEL,cUP TACK JOT,cDOWNWARDS VANE",
    "cQUAD DOWNWARDS ARROW,cQUOTE UNDERBAR,cDELTAa,cDIAMONDa,cJOTa,cCIRCLEa,cUP SHOE JOT,cQUOTE QUAD,cCIRCLE STAR",
    "cQUAD COLON,cUP TACK DIAERESIS,cDELa,cSTARa,cJOTa,cCIRCLEa,cDOWN SHOE STILE,cLEFTb,cTILDE DIAERESIS",
    "cGREATER-THANa,cCOMMA BAR,cDEL TILDE,cZILDE,cSTILE TILDE,cSEMICOLON UNDERBAR,cQUAD NOT EQUAL,dQUESTION",
    "cDOWN CARET TILDE,cUPb,cIOTA,cRHO,cOMEGA,cALPHA UNDERBAR,cEPSILONa,cIOTAa,cOMEGAa,cALPHA,NOT CHECK MARK",
    "RIGHT ANGLE WITH DOWNWARDS ZIGZAG ARROW,SHOULDERED OPEN BOX,BELL SYMBOL,VERTICAL LINE WITH MIDDLE DOT",
    "INSERTION SYMBOL,CONTINUOUS UNDERLINEa,DISCONTINUOUSb,EMPHASISa,COMPOSITIONa",
    "WHITE SQUARE WITH CENTRE VERTICAL LINE,ENTER SYMBOL,ALTERNATIVE KEYa,HELMa,CIRCLED HORIZONTAL BAR WITH NOTCH",
    "aTRIANGLE DOWN,BROKEN CIRCLE WITH NORTHWEST ARROW,UNDO SYMBOL,MONOSTABLEa,HYSTERESISa",
    "OPEN-CIRCUIT-OUTPUT H-TYPEa,aL-TYPEa,PASSIVE-PULL-DOWN-OUTPUTa,PASSIVE-PULL-UP-OUTPUTa",
    "DIRECT CURRENT SYMBOL FORM TWO,SOFTWARE-FUNCTION SYMBOL,APL FUNCTIONAL SYMBOL QUAD,DECIMAL SEPARATOR KEY SYMBOL",
    "PREVIOUS PAGE,NEXTa,PRINT SCREEN SYMBOL,CLEARb,LEFT PARENTHESIS UPPER HOOK,bEXTENSION,bLOWER HOOK",
    "RIGHT PARENTHESIS UPPERa,bEXTENSION,bLOWER HOOK,LEFT SQUARE BRACKET UPPER CORNER,cEXTENSION,cLOWER CORNER",
    "RIGHT SQUARE BRACKET UPPERa,cEXTENSION,cLOWER CORNER,LEFT CURLY BRACKET UPPER HOOK,cMIDDLE PIECE,cLOWER HOOK",
    "CURLY BRACKET EXTENSION,RIGHT CURLY BRACKET UPPER HOOK,cMIDDLE PIECE,cLOWER HOOK,INTEGRAL EXTENSION",
    "HORIZONTAL LINEa,UPPER LEFT OR LOWER RIGHT CURLY BRACKET SECTION,aRIGHT OR LOWER LEFTc,SUMMATION TOP,aBOTTOM",
    "TOP SQUARE BRACKET,BOTTOMb,cOVER TOP SQUARE BRACKET,RADICAL SYMBOL BOTTOM,LEFT VERTICAL BOX LINE,RIGHTc",
    "HORIZONTAL SCAN LINE-1,bLINE-3,bLINE-7,bLINE-9,DENTISTRY SYMBOL LIGHT VERTICAL AND TOP RIGHT,eBOTTOMa",
    "dWITH CIRCLE,cDOWN AND HORIZONTALb,cUPd,cVERTICAL WITH TRIANGLE,cDOWN AND HORIZONTALb,cUPd,cVERTICAL AND WAVE",
    "cDOWN AND HORIZONTAL WITHa,cUPd,cDOWN AND HORIZONTAL,cUPb,cVERTICAL AND TOP LEFT,eBOTTOMa,SQUARE FOOT",
    "RETURN SYMBOL,EJECTa,VERTICAL LINE EXTENSION,METRICAL BREVE,aLONG OVER SHORT,aSHORT OVER LONG",
    "aLONG OVER TWO SHORTS,aTWO SHORTS OVER LONG,cJOINED,aTRISEME,aTETRASEME,aPENTASEME,EARTH GROUND,FUSE",
    "TOP PARENTHESIS,BOTTOMa,TOP CURLY BRACKET,BOTTOMb,TOP TORTOISE SHELLa,BOTTOMc,WHITE TRAPEZIUM",
    "BENZENE RING WITH CIRCLE,STRAIGHTNESS,FLATNESS,AC CURRENT,ELECTRICAL INTERSECTION,DECIMAL EXPONENT SYMBOL",
    "BLACK RIGHT-POINTING DOUBLE TRIANGLE,aLEFT-POINTINGb,aUP-POINTINGb,aDOWN-POINTINGb",
    "aRIGHT-POINTING DOUBLE TRIANGLE WITH VERTICAL BAR,aLEFT-POINTINGe,aRIGHT-POINTING TRIANGLE WITH DOUBLEb",
    "ALARM CLOCK,STOPWATCH,TIMER CLOCK,HOURGLASS WITH FLOWING SAND,BLACK MEDIUM LEFT-POINTING TRIANGLE",
    "bRIGHT-POINTINGa,bUP-POINTINGa,bDOWN-POINTINGa,DOUBLE VERTICAL BAR,BLACK SQUARE FOR STOP,aCIRCLE FOR RECORD",
    "POWER SYMBOL,aON-OFFa,aONa,aSLEEPa,OBSERVER EYEa"]),
  (0x2400, ["SYMBOL FOR NULL,bSTART OF HEADING,dTEXT,bENDb,dTRANSMISSION,bENQUIRY,bACKNOWLEDGE,bBELL,bBACKSPACE",
    "bHORIZONTAL TABULATION,bLINE FEED,bVERTICAL TABULATION,bFORM FEED,bCARRIAGE RETURN,bSHIFT OUT,cIN",
    "bDATA LINK ESCAPE,bDEVICE CONTROL ONE,dTWO,dTHREE,dFOUR,bNEGATIVE ACKNOWLEDGE,bSYNCHRONOUS IDLE",
    "bEND OF TRANSMISSION BLOCK,bCANCEL,bEND OF MEDIUM,bSUBSTITUTE,bESCAPE,bFILE SEPARATOR,bGROUPa,bRECORDa,bUNITa",
    "bSPACE,bDELETE,BLANK SYMBOL,OPEN BOX,SYMBOL FOR NEWLINE,bDELETE FORM TWO,bSUBSTITUTEb"]),
  (0x2440, ["OCR HOOK,aCHAIR,aFORK,aINVERTEDa,aBELT BUCKLE,aBOW TIE,aBRANCH BANK IDENTIFICATION,aAMOUNT OF CHECK",
    "aDASH,aCUSTOMER ACCOUNT NUMBER,aDOUBLE BACKSLASH"]),
  (0x2460, ["CIRCLED DIGIT ONE,bTWO,bTHREE,bFOUR,bFIVE,bSIX,bSEVEN,bEIGHT,bNINE,aNUMBER TEN,bELEVEN,bTWELVE",
    "bTHIRTEEN,bFOURTEEN,bFIFTEEN,bSIXTEEN,bSEVENTEEN,bEIGHTEEN,bNINETEEN,bTWENTY,PARENTHESIZED DIGIT ONE,bTWO",
    "bTHREE,bFOUR,bFIVE,bSIX,bSEVEN,bEIGHT,bNINE,aNUMBER TEN,bELEVEN,bTWELVE,bTHIRTEEN,bFOURTEEN,bFIFTEEN,bSIXTEEN",
    "bSEVENTEEN,bEIGHTEEN,bNINETEEN,bTWENTY,DIGIT ONE FULL STOP,aTWOb,aTHREEb,aFOURb,aFIVEb,aSIXb,aSEVENb,aEIGHTb",
    "aNINEb,NUMBER TENb,aELEVENb,aTWELVEb,aTHIRTEENb,aFOURTEENb,aFIFTEENb,aSIXTEENb,aSEVENTEENb,aEIGHTEENb",
    "aNINETEENb,aTWENTYb,PARENTHESIZED LATIN SMALL LETTER A,dB,dC,dD,dE,dF,dG,dH,dI,dJ,dK,dL,dM,dN,dO,dP,dQ,dR,dS,dT",
    "dU,dV,dW,dX,dY,dZ,CIRCLED LATIN CAPITAL LETTER A,dB,dC,dD,dE,dF,dG,dH,dI,dJ,dK,dL,dM,dN,dO,dP,dQ,dR,dS,dT,dU,dV",
    "dW,dX,dY,dZ,bSMALL LETTER A,dB,dC,dD,dE,dF,dG,dH,dI,dJ,dK,dL,dM,dN,dO,dP,dQ,dR,dS,dT,dU,dV,dW,dX,dY,dZ",
    "aDIGIT ZERO,NEGATIVE CIRCLED NUMBER ELEVEN,cTWELVE,cTHIRTEEN,cFOURTEEN,cFIFTEEN,cSIXTEEN,cSEVENTEEN,cEIGHTEEN",
    "cNINETEEN,cTWENTY,DOUBLE CIRCLED DIGIT ONE,cTWO,cTHREE,cFOUR,cFIVE,cSIX,cSEVEN,cEIGHT,cNINE,bNUMBER TEN",
    "NEGATIVE CIRCLED DIGIT ZERO"]),
  (0x2500, ["BOX DRAWINGS LIGHT HORIZONTAL,bHEAVYa,bLIGHT VERTICAL,bHEAVYa,bLIGHT TRIPLE DASH HORIZONTAL,bHEAVYc",
    "bLIGHT TRIPLE DASH VERTICAL,bHEAVYc,bLIGHT QUADRUPLE DASH HORIZONTAL,bHEAVYc,bLIGHT QUADRUPLE DASH VERTICAL",
    "bHEAVYc,bLIGHT DOWN AND RIGHT,bDOWN LIGHT AND RIGHT HEAVY,cHEAVY AND RIGHT LIGHT,bHEAVY DOWN AND RIGHT",
    "bLIGHT DOWN AND LEFT,bDOWN LIGHT AND LEFT HEAVY,cHEAVY AND LEFT LIGHT,bHEAVY DOWN AND LEFT,bLIGHT UP AND RIGHT",
    "bUP LIGHT AND RIGHT HEAVY,cHEAVY AND RIGHT LIGHT,bHEAVY UP AND RIGHT,bLIGHT UP AND LEFT",
    "bUP LIGHT AND LEFT HEAVY,cHEAVY AND LEFT LIGHT,bHEAVY UP AND LEFT,bLIGHT VERTICAL AND RIGHT",
    "bVERTICAL LIGHT AND RIGHT HEAVY,bUP HEAVY AND RIGHT DOWN LIGHT,bDOWN HEAVY AND RIGHT UPa",
    "bVERTICAL HEAVY AND RIGHTa,bDOWN LIGHT AND RIGHT UP HEAVY,bUP LIGHT AND RIGHT DOWNa,bHEAVY VERTICAL AND RIGHT",
    "bLIGHT VERTICAL AND LEFT,bVERTICAL LIGHT AND LEFT HEAVY,bUP HEAVY AND LEFT DOWN LIGHT,bDOWN HEAVY AND LEFT UPa",
    "bVERTICAL HEAVY AND LEFTa,bDOWN LIGHT AND LEFT UP HEAVY,bUP LIGHT AND LEFT DOWNa,bHEAVY VERTICAL AND LEFT",
    "bLIGHT DOWN AND HORIZONTAL,bLEFT HEAVY AND RIGHT DOWN LIGHT,bRIGHT HEAVY AND LEFTb",
    "bDOWN LIGHT AND HORIZONTAL HEAVY,cHEAVY AND HORIZONTAL LIGHT,bRIGHT LIGHT AND LEFT DOWN HEAVY",
    "bLEFT LIGHT AND RIGHTb,bHEAVY DOWN AND HORIZONTAL,bLIGHT UPb,bLEFT HEAVY AND RIGHT UP LIGHT",
    "bRIGHT HEAVY AND LEFTb,bUP LIGHT AND HORIZONTAL HEAVY,cHEAVY AND HORIZONTAL LIGHT",
    "bRIGHT LIGHT AND LEFT UP HEAVY,bLEFT LIGHT AND RIGHTb,bHEAVY UP AND HORIZONTAL,bLIGHT VERTICALb",
    "bLEFT HEAVY AND RIGHT VERTICAL LIGHT,bRIGHT HEAVY AND LEFTb,bVERTICAL LIGHT AND HORIZONTAL HEAVY",
    "bUP HEAVY AND DOWN HORIZONTAL LIGHT,bDOWN HEAVY AND UPb,bVERTICAL HEAVY ANDb,bLEFT UP HEAVY AND RIGHT DOWNa",
    "bRIGHT UP HEAVY AND LEFTb,bLEFT DOWN HEAVY AND RIGHT UPa,bRIGHT DOWN HEAVY AND LEFTb",
    "bDOWN LIGHT AND UP HORIZONTAL HEAVY,bUP LIGHT AND DOWNb,bRIGHT LIGHT AND LEFT VERTICALa,bLEFT LIGHT AND RIGHTb",
    "bHEAVY VERTICAL AND HORIZONTAL,bLIGHT DOUBLE DASHa,bHEAVYc,bLIGHT DOUBLE DASH VERTICAL,bHEAVYc",
    "bDOUBLE HORIZONTAL,cVERTICAL,bDOWN SINGLE AND RIGHT DOUBLE,cDOUBLE AND RIGHT SINGLE,bDOUBLE DOWN AND RIGHT",
    "bDOWN SINGLE AND LEFT DOUBLE,cDOUBLE AND LEFT SINGLE,bDOUBLE DOWN AND LEFT,bUP SINGLE AND RIGHT DOUBLE",
    "cDOUBLE AND RIGHT SINGLE,bDOUBLE UP AND RIGHT,bUP SINGLE AND LEFT DOUBLE,cDOUBLE AND LEFT SINGLE",
    "bDOUBLE UP AND LEFT,bVERTICAL SINGLE AND RIGHT DOUBLE,cDOUBLE AND RIGHT SINGLE,bDOUBLE VERTICAL AND RIGHT",
    "bVERTICAL SINGLE AND LEFT DOUBLE,cDOUBLE AND LEFT SINGLE,bDOUBLE VERTICAL AND LEFT",
    "bDOWN SINGLE AND HORIZONTAL DOUBLE,cDOUBLE AND HORIZONTAL SINGLE,bDOUBLE DOWN AND HORIZONTAL",
    "bUP SINGLE AND HORIZONTAL DOUBLE,cDOUBLE AND HORIZONTAL SINGLE,bDOUBLE UP AND HORIZONTAL",
    "bVERTICAL SINGLE AND HORIZONTAL DOUBLE,cDOUBLE AND HORIZONTAL SINGLE,bDOUBLE VERTICAL AND HORIZONTAL",
    "bLIGHT ARC DOWN AND RIGHT,fLEFT,dUPb,fRIGHT,cDIAGONAL UPPER RIGHT TO LOWER LEFT,eLEFT TO LOWER RIGHT,dCROSS",
    "cLEFT,cUP,cRIGHT,cDOWN,bHEAVY LEFT,cUP,cRIGHT,cDOWN,bLIGHT LEFT AND HEAVY RIGHT,cUP AND HEAVY DOWN",
    "bHEAVY LEFT AND LIGHT RIGHT,cUP AND LIGHT DOWN,UPPER HALF BLOCK,LOWER ONE EIGHTHa,bQUARTERa,aTHREE EIGHTHSa",
    "aHALFa,aFIVE EIGHTHSa,aTHREE QUARTERSa,aSEVEN EIGHTHSa,FULLa,LEFT SEVEN EIGHTHSa,aTHREE QUARTERSa",
    "aFIVE EIGHTHSa,aHALFa,aTHREE EIGHTHSa,aONE QUARTERa,bEIGHTHa,RIGHT HALFa,LIGHT SHADE,MEDIUMa,DARKa",
    "UPPER ONE EIGHTH BLOCK,RIGHTc,QUADRANT LOWER LEFT,bRIGHT,aUPPER LEFT,cAND LOWER LEFT AND LOWER RIGHT,db",
    "dUPPER RIGHT AND LOWER LEFT,hRIGHT,ba,cAND LOWER LEFT,fAND LOWER RIGHT,BLACK SQUARE,WHITEa",
    "bWITH ROUNDED CORNERS,bCONTAINING BLACK SMALL SQUARE,SQUARE WITH HORIZONTAL FILL,bVERTICALa",
    "bORTHOGONAL CROSSHATCHa,bUPPER LEFT TO LOWER RIGHTa,cRIGHT TO LOWER LEFTa,bDIAGONAL CROSSHATCHa",
    "BLACK SMALL SQUARE,WHITEb,BLACK RECTANGLE,WHITEa,BLACK VERTICALa,WHITEb,BLACK PARALLELOGRAM,WHITEa",
    "BLACK UP-POINTING TRIANGLE,WHITEb,BLACK UP-POINTING SMALLa,WHITEc,BLACK RIGHT-POINTINGa,WHITEb",
    "BLACK RIGHT-POINTING SMALLa,WHITEc,BLACK RIGHT-POINTING POINTER,WHITEb,BLACK DOWN-POINTING TRIANGLE,WHITEb",
    "BLACK DOWN-POINTING SMALLa,WHITEc,BLACK LEFT-POINTINGa,WHITEb,BLACK LEFT-POINTING SMALLa,WHITEc",
    "BLACK LEFT-POINTING POINTER,WHITEb,BLACK DIAMOND,WHITEa,bCONTAINING BLACK SMALL DIAMOND,FISHEYE,LOZENGE",
    "WHITE CIRCLE,DOTTEDa,CIRCLE WITH VERTICAL FILL,BULLSEYE,BLACK CIRCLE,CIRCLE WITH LEFT HALF BLACK,bRIGHTb",
    "bLOWERb,bUPPERb,cRIGHT QUADRANTa,bALL BUT UPPER LEFTb,LEFT HALF BLACK CIRCLE,RIGHTc,INVERSE BULLET",
    "aWHITE CIRCLE,UPPER HALFc,LOWERd,UPPER LEFT QUADRANT CIRCULAR ARC,aRIGHTc,LOWERd,aLEFTc,UPPER HALF CIRCLE",
    "LOWERb,BLACK LOWER RIGHT TRIANGLE,bLEFTa,aUPPERb,bRIGHTa,WHITE BULLET,SQUARE WITH LEFT HALF BLACK,bRIGHTb",
    "bUPPER LEFT DIAGONALb,bLOWER RIGHTc,WHITE SQUARE WITH VERTICAL BISECTING LINE,aUP-POINTING TRIANGLE WITH DOT",
    "UP-POINTING TRIANGLE WITH LEFT HALF BLACK,cRIGHTb,LARGE CIRCLE,WHITE SQUARE WITH UPPER LEFT QUADRANT,cLOWERb",
    "dRIGHTa,cUPPERb,aCIRCLE WITH UPPER LEFTa,cLOWERb,dRIGHTa,cUPPERb,UPPER LEFT TRIANGLE,aRIGHTa,LOWER LEFTa",
    "WHITE MEDIUM SQUARE,BLACKb,WHITE MEDIUM SMALLa,BLACKc,LOWER RIGHT TRIANGLE"]),
  (0x2600, ["BLACK SUN WITH RAYS,CLOUD,UMBRELLA,SNOWMAN,COMET,BLACK STAR,WHITEa,LIGHTNING,THUNDERSTORM,SUN",
    "ASCENDING NODE,DESCENDINGa,CONJUNCTION,OPPOSITION,BLACK TELEPHONE,WHITEa,BALLOT BOX,bWITH CHECK,cX,SALTIRE",
    "UMBRELLA WITH RAIN DROPS,HOT BEVERAGE,WHITE SHOGI PIECE,BLACKb,SHAMROCK,REVERSED ROTATED FLORAL HEART BULLET",
    "BLACK LEFT POINTING INDEX,aRIGHTb,WHITE LEFTb,aUPb,aRIGHTb,aDOWNb,SKULL AND CROSSBONES,CAUTION SIGN",
    "RADIOACTIVEa,BIOHAZARDa,CADUCEUS,ANKH,ORTHODOX CROSS,CHI RHO,CROSS OF LORRAINE,bJERUSALEM,STAR AND CRESCENT",
    "FARSI SYMBOL,ADI SHAKTI,HAMMER AND SICKLE,PEACE SYMBOL,YIN YANG,TRIGRAM FOR HEAVEN,bLAKE,bFIRE,bTHUNDER,bWIND",
    "bWATER,bMOUNTAIN,bEARTH,WHEEL OF DHARMA,WHITE FROWNING FACE,aSMILINGa,BLACKb,WHITE SUN WITH RAYS",
    "FIRST QUARTER MOON,LASTb,MERCURY,FEMALE SIGN,EARTH,MALE SIGN,JUPITER,SATURN,URANUS,NEPTUNE,PLUTO,ARIES,TAURUS",
    "GEMINI,CANCER,LEO,VIRGO,LIBRA,SCORPIUS,SAGITTARIUS,CAPRICORN,AQUARIUS,PISCES,WHITE CHESS KING,bQUEEN,bROOK",
    "bBISHOP,bKNIGHT,bPAWN,BLACK CHESS KING,bQUEEN,bROOK,bBISHOP,bKNIGHT,bPAWN,aSPADE SUIT,WHITE HEARTa,aDIAMONDa",
    "BLACK CLUBa,WHITE SPADEa,BLACK HEARTa,aDIAMONDa,WHITE CLUBa,HOT SPRINGS,QUARTER NOTE,EIGHTHa",
    "BEAMED EIGHTH NOTES,aSIXTEENTHa,MUSIC FLAT SIGN,aNATURALa,aSHARPa,WEST SYRIAC CROSS,EASTb",
    "UNIVERSAL RECYCLING SYMBOL,RECYCLING SYMBOL FOR TYPE-1 PLASTICS,cTYPE-2a,cTYPE-3a,cTYPE-4a,cTYPE-5a,cTYPE-6a",
    "cTYPE-7a,cGENERIC MATERIALS,BLACK UNIVERSAL RECYCLING SYMBOL,RECYCLED PAPERa,PARTIALLY-RECYCLEDb",
    "PERMANENT PAPER SIGN,WHEELCHAIR SYMBOL,DIE FACE-1,aFACE-2,aFACE-3,aFACE-4,aFACE-5,aFACE-6",
    "WHITE CIRCLE WITH DOT RIGHT,cTWO DOTS,BLACK CIRCLE WITH WHITE DOT RIGHT,cTWO WHITE DOTS,MONOGRAM FOR YANG,bYIN",
    "DIGRAM FOR GREATER YANG,bLESSER YIN,cYANG,bGREATER YIN,WHITE FLAG,BLACKa,HAMMER AND PICK,ANCHOR,CROSSED SWORDS",
    "STAFF OF AESCULAPIUS,SCALES,ALEMBIC,FLOWER,GEAR,STAFF OF HERMES,ATOM SYMBOL,FLEUR-DE-LIS,OUTLINED WHITE STAR",
    "THREE LINES CONVERGING RIGHT,cLEFT,WARNING SIGN,HIGH VOLTAGEa,DOUBLED FEMALEa,aMALEa,INTERLOCKED FEMALE ANDb",
    "MALE AND FEMALEa,aWITH STROKEa,cAND MALE AND FEMALEa,VERTICAL MALE WITH STROKEa,HORIZONTALd,MEDIUM WHITE CIRCLE",
    "aBLACKa,aSMALL WHITEa,MARRIAGE SYMBOL,DIVORCEa,UNMARRIED PARTNERSHIPa,COFFIN,FUNERAL URN,NEUTER,CERES,PALLAS",
    "JUNO,VESTA,CHIRON,BLACK MOON LILITH,SEXTILE,SEMISEXTILE,QUINCUNX,SESQUIQUADRATE,SOCCER BALL,BASEBALL",
    "SQUARED KEY,WHITE DRAUGHTS MAN,bKING,BLACK DRAUGHTS MAN,bKING,SNOWMAN WITHOUT SNOW,SUN BEHIND CLOUD,RAIN",
    "BLACK SNOWMAN,THUNDER CLOUD AND RAIN,TURNED WHITE SHOGI PIECE,aBLACKb,WHITE DIAMOND IN SQUARE,CROSSING LANES",
    "DISABLED CAR,OPHIUCHUS,PICK,CAR SLIDING,HELMET WITH WHITE CROSS,CIRCLED CROSSING LANES,CHAINS,NO ENTRY",
    "ALTERNATE ONE-WAY LEFT WAY TRAFFIC,BLACK TWO-WAYc,WHITEd,BLACK LEFT LANE MERGE,WHITEc,DRIVE SLOW SIGN",
    "HEAVY WHITE DOWN-POINTING TRIANGLE,LEFT CLOSED ENTRY,SQUARED SALTIRE",
    "FALLING DIAGONAL IN WHITE CIRCLE IN BLACK SQUARE,BLACK TRUCK,RESTRICTED LEFT ENTRY-1,bENTRY-2",
    "ASTRONOMICAL SYMBOL FOR URANUS,HEAVY CIRCLE WITH STROKE AND TWO DOTS ABOVE,PENTAGRAM,RIGHT-HANDED INTERLACEDa",
    "LEFT-HANDEDb,INVERTEDa,BLACK CROSS ON SHIELD,SHINTO SHRINE,CHURCH,CASTLE,HISTORIC SITE,GEAR WITHOUT HUB",
    "aWITH HANDLES,MAP SYMBOL FOR LIGHTHOUSE,MOUNTAIN,UMBRELLA ON GROUND,FOUNTAIN,FLAG IN HOLE,FERRY,SAILBOAT",
    "SQUARE FOUR CORNERS,SKIER,ICE SKATE,PERSON WITH BALL,TENT,JAPANESE BANK SYMBOL,HEADSTONE GRAVEYARDa,FUEL PUMP",
    "CUP ON BLACK SQUARE,WHITE FLAG WITH HORIZONTAL MIDDLE BLACK STRIPE"]),
  (0x2700, ["BLACK SAFETY SCISSORS,UPPER BLADEa,BLACKa,LOWER BLADEa,WHITEa,aHEAVY CHECK MARK,TELEPHONE LOCATION SIGN",
    "TAPE DRIVE,AIRPLANE,ENVELOPE,RAISED FIST,aHAND,VICTORYa,WRITINGa,LOWER RIGHT PENCIL,PENCIL,UPPER RIGHTa",
    "WHITE NIB,BLACKa,CHECK MARK,HEAVYb,MULTIPLICATION X,HEAVYb,BALLOTa,HEAVYb,OUTLINED GREEK CROSS,HEAVYb",
    "OPEN CENTREa,HEAVYc,LATINa,SHADOWED WHITEb,OUTLINEDb,MALTESEa,STAR OF DAVID,FOUR TEARDROP-SPOKED ASTERISK",
    "aBALLOON-SPOKEDa,HEAVYc,FOUR CLUB-SPOKEDa,BLACK FOUR POINTED STAR,WHITEc,SPARKLES,STRESS OUTLINED WHITE STAR",
    "CIRCLEDb,OPEN CENTRE BLACKa,BLACK CENTRE WHITEa,OUTLINED BLACKa,HEAVYc,PINWHEELa,SHADOWED WHITEa,HEAVY ASTERISK",
    "OPEN CENTREa,EIGHT SPOKEDa,aPOINTED BLACK STAR,bPINWHEELa,SIX POINTED BLACKa,EIGHT POINTED RECTILINEARb,HEAVYe",
    "TWELVE POINTEDb,SIXTEEN POINTED ASTERISK,TEARDROP-SPOKEDa,OPEN CENTREb,HEAVYb",
    "SIX PETALLED BLACK AND WHITE FLORETTE,BLACKa,WHITEa,EIGHT PETALLED OUTLINED BLACKa",
    "CIRCLED OPEN CENTRE EIGHT POINTED STAR,HEAVY TEARDROP-SPOKED PINWHEEL ASTERISK,SNOWFLAKE,TIGHT TRIFOLIATEa",
    "HEAVY CHEVRONa,SPARKLE,HEAVYa,BALLOON-SPOKED ASTERISK,EIGHT TEARDROP-SPOKED PROPELLERa,HEAVYd,CROSS MARK",
    "SHADOWED WHITE CIRCLE,NEGATIVE SQUARED CROSS MARK,LOWER RIGHT DROP-SHADOWED WHITE SQUARE,UPPERd",
    "LOWER RIGHT SHADOWEDb,UPPERd,BLACK QUESTION MARK ORNAMENT,WHITEc,aEXCLAMATIONb,BLACK DIAMOND MINUS WHITE X",
    "HEAVY EXCLAMATION MARK SYMBOL,LIGHT VERTICAL BAR,MEDIUMb,HEAVYb,aSINGLE TURNED COMMA QUOTATION MARK ORNAMENT,bd",
    "aDOUBLE TURNEDd,bd,aLOW SINGLEd,bDOUBLEd,CURVED STEM PARAGRAPH SIGNa,HEAVY EXCLAMATION MARKa,aHEARTc",
    "aBLACK HEART,ROTATED HEAVY BLACK HEART BULLET,FLORAL HEART,ROTATED FLORAL HEART BULLET",
    "MEDIUM LEFT PARENTHESIS ORNAMENT,aRIGHTb,aFLATTENED LEFTb,bRIGHTb,aLEFT-POINTING ANGLE BRACKETa",
    "aRIGHT-POINTINGc,HEAVY LEFT-POINTING ANGLE QUOTATION MARKa,aRIGHT-POINTINGd,aLEFT-POINTING ANGLE BRACKETa",
    "aRIGHT-POINTINGc,LIGHT LEFT TORTOISE SHELLb,aRIGHTd,MEDIUM LEFT CURLYb,aRIGHTc",
    "DINGBAT NEGATIVE CIRCLED DIGIT ONE,dTWO,dTHREE,dFOUR,dFIVE,dSIX,dSEVEN,dEIGHT,dNINE,cNUMBER TEN",
    "aCIRCLED SANS-SERIF DIGIT ONE,dTWO,dTHREE,dFOUR,dFIVE,dSIX,dSEVEN,dEIGHT,dNINE,cNUMBER TEN",
    "aNEGATIVE CIRCLED SANS-SERIF DIGIT ONE,eTWO,eTHREE,eFOUR,eFIVE,eSIX,eSEVEN,eEIGHT,eNINE,dNUMBER TEN",
    "HEAVY WIDE-HEADED RIGHTWARDS ARROW,aPLUS SIGN,aMINUSa,aDIVISIONa,aSOUTH EAST ARROW,aRIGHTWARDSa,aNORTH EASTa",
    "DRAFTING POINT RIGHTWARDSa,HEAVY ROUND-TIPPEDb,TRIANGLE-HEADEDb,HEAVYc,DASHEDc,HEAVYd,BLACKb",
    "THREE-D TOP-LIGHTED RIGHTWARDS ARROWHEAD,aBOTTOM-LIGHTEDb,BLACKb",
    "HEAVY BLACK CURVED DOWNWARDS AND RIGHTWARDS ARROW,cUPWARDSc,SQUAT BLACKb,HEAVY CONCAVE-POINTEDc",
    "RIGHT-SHADED WHITEb,LEFT-SHADEDc,BACK-TILTED SHADOWEDc,FRONT-TILTEDd,HEAVY LOWER RIGHT-SHADOWEDc,aUPPERd",
    "NOTCHED LOWERd,CURLY LOOP,NOTCHED UPPER RIGHT-SHADOWED WHITE RIGHTWARDS ARROW,CIRCLED HEAVYc,WHITE-FEATHEREDb",
    "BLACK-FEATHERED SOUTH EASTa,aRIGHTWARDSa,aNORTH EASTa,HEAVY BLACK-FEATHERED SOUTHb,bRIGHTWARDSa,bNORTH EASTa",
    "TEARDROP-BARBED RIGHTWARDSa,HEAVY TEARDROP-SHANKEDb,WEDGE-TAILEDb,HEAVYc,OPEN-OUTLINEDb,DOUBLE CURLY LOOP",
    "THREE DIMENSIONAL ANGLE,WHITE TRIANGLE CONTAINING SMALL WHITE TRIANGLE,PERPENDICULAR,OPEN SUBSET,aSUPERSET",
    "LEFT S-SHAPED BAG DELIMITER,RIGHTc,OR WITH DOT INSIDE,REVERSE SOLIDUS PRECEDING SUBSET",
    "SUPERSET PRECEDING SOLIDUS,VERTICAL BAR WITH HORIZONTAL STROKE,MATHEMATICAL RISING DIAGONAL,LONG DIVISION",
    "MATHEMATICAL FALLING DIAGONAL,SQUARED LOGICAL AND,bOR,WHITE DIAMOND WITH CENTRED DOT,AND WITHa",
    "ELEMENT OF OPENING UPWARDS,LOWER RIGHT CORNER WITH DOT,UPPER LEFTc,LEFT OUTER JOIN,RIGHTb,FULLb,LARGE UP TACK",
    "aDOWNa,LEFT AND RIGHT DOUBLE TURNSTILE,cTACK,aMULTIMAP,LONG RIGHT TACK,aLEFTa,UP TACK WITH CIRCLE ABOVE",
    "LOZENGE DIVIDED BY HORIZONTAL RULE,WHITE CONCAVE-SIDED DIAMOND,cWITH LEFTWARDS TICK,dRIGHTWARDSa",
    "aSQUARE WITH LEFTWARDSa,cRIGHTWARDSa,MATHEMATICAL LEFT WHITE SQUARE BRACKET,aRIGHTc,aLEFT ANGLEa,aRIGHTb",
    "aLEFT DOUBLEb,aRIGHTc,aLEFT WHITE TORTOISE SHELLa,aRIGHTd,aLEFT FLATTENED PARENTHESIS,aRIGHTb",
    "UPWARDS QUADRUPLE ARROW,DOWNWARDSb,ANTICLOCKWISE GAPPED CIRCLEa,CLOCKWISEc,RIGHT ARROW WITH CIRCLED PLUS",
    "LONG LEFTWARDS ARROW,aRIGHTWARDSa,aLEFT RIGHTa,aLEFTWARDS DOUBLEa,aRIGHTWARDSb,aLEFT RIGHTb",
    "aLEFTWARDS ARROW FROM BAR,aRIGHTWARDSc,aLEFTWARDS DOUBLEc,aRIGHTWARDSd,bSQUIGGLE ARROW"]),
  (0x2800, ["BRAILLE PATTERN BLANK"]),
  (0x2900, ["RIGHTWARDS TWO-HEADED ARROW WITH VERTICAL STROKE,dDOUBLEb,LEFTWARDS DOUBLE ARROW WITHb,RIGHTWARDSe",
    "LEFT RIGHTe,RIGHTWARDS TWO-HEADED ARROW FROM BAR,LEFTWARDS DOUBLEc,RIGHTWARDSd",
    "DOWNWARDS ARROW WITH HORIZONTAL STROKE,UPWARDSd,aTRIPLE ARROW,DOWNWARDSb,LEFTWARDS DOUBLE DASHa,RIGHTWARDSc",
    "LEFTWARDS TRIPLEb,RIGHTWARDSc,aTWO-HEADEDc,aARROW WITH DOTTED STEM,UPWARDS ARROW TO BAR,DOWNWARDSc",
    "RIGHTWARDS ARROW WITH TAIL WITH VERTICAL STROKE,eDOUBLEb,aTWO-HEADED ARROW WITH TAIL,eWITH VERTICAL STROKE",
    "fDOUBLEb,LEFTWARDS ARROW-TAIL,RIGHTWARDSa,LEFTWARDS DOUBLEa,RIGHTWARDSb,LEFTWARDS ARROW TO BLACK DIAMOND",
    "RIGHTWARDSd,LEFTWARDS ARROW FROM BARc,RIGHTWARDSf,NORTH WEST AND SOUTH EAST ARROW,aEAST AND SOUTH WESTa",
    "aWEST ARROW WITH HOOK,aEASTc,SOUTHd,aWESTc,NORTH WEST ARROW AND NORTH EAST ARROW,aEAST ARROW AND SOUTHb",
    "SOUTH EAST ARROW AND SOUTH WESTa,aWEST ARROW AND NORTHb,RISING DIAGONAL CROSSING FALLING DIAGONAL",
    "FALLING DIAGONAL CROSSING RISINGa,SOUTH EAST ARROW CROSSING NORTH EAST ARROW,NORTH EAST ARROW CROSSING SOUTHb",
    "FALLING DIAGONAL CROSSING NORTHb,RISING DIAGONAL CROSSING SOUTHb,NORTH EAST ARROW CROSSING NORTH WESTa",
    "aWEST ARROW CROSSING NORTH EASTa,WAVE ARROW POINTING DIRECTLY RIGHT",
    "ARROW POINTING RIGHTWARDS THEN CURVING UPWARDS,eDOWNWARDS,bDOWNWARDS THEN CURVING LEFTWARDS,eRIGHTWARDS",
    "RIGHT-SIDE ARC CLOCKWISE ARROW,LEFT-SIDE ARC ANTICLOCKWISEa,TOPc,BOTTOMc,TOP ARC CLOCKWISE ARROW WITH MINUS",
    "bANTICLOCKWISE ARROW WITH PLUS,LOWER RIGHT SEMICIRCULAR CLOCKWISE ARROW,aLEFT SEMICIRCULAR ANTICLOCKWISEa",
    "ANTICLOCKWISE CLOSED CIRCLEa,CLOCKWISEc,RIGHTWARDS ARROW ABOVE SHORT LEFTWARDSa",
    "LEFTWARDS ARROW ABOVE SHORT RIGHTWARDSa,SHORT RIGHTWARDS ARROW ABOVE LEFTWARDSa",
    "RIGHTWARDS ARROW WITH PLUS BELOW,LEFTWARDSd,RIGHTWARDS ARROW THROUGH X,LEFT RIGHT ARROW THROUGH SMALL CIRCLE",
    "UPWARDS TWO-HEADED ARROW FROMb,LEFT BARB UP RIGHT BARB DOWN HARPOON,bDOWN RIGHT BARB UPa",
    "UP BARB RIGHT DOWN BARB LEFTa,bLEFT DOWN BARB RIGHTa,LEFT BARB UP RIGHT BARB UPa,UP BARB RIGHT DOWN BARB RIGHTa",
    "LEFT BARB DOWN RIGHT BARB DOWNa,UP BARB LEFT DOWN BARB LEFTa,LEFTWARDS HARPOON WITH BARB UP TO BAR,RIGHTWARDSf",
    "UPWARDS HARPOON WITH BARB RIGHTb,DOWNWARDSf,LEFTWARDS HARPOON WITH BARB DOWNb,RIGHTWARDSf",
    "UPWARDS HARPOON WITH BARB LEFTb,DOWNWARDSf,LEFTWARDS HARPOON WITH BARB UP FROMa,RIGHTWARDSf",
    "UPWARDS HARPOON WITH BARB RIGHTb,DOWNWARDSf,LEFTWARDS HARPOON WITH BARB DOWNb,RIGHTWARDSf",
    "UPWARDS HARPOON WITH BARB LEFTb,DOWNWARDSf",
    "LEFTWARDS HARPOON WITH BARB UP ABOVE LEFTWARDS HARPOON WITH BARB DOWN",
    "UPWARDS HARPOON WITH BARB LEFT BESIDE UPWARDS HARPOON WITH BARB RIGHT",
    "RIGHTWARDS HARPOON WITH BARB UP ABOVE RIGHTWARDS HARPOON WITH BARB DOWN",
    "DOWNWARDS HARPOON WITH BARB LEFT BESIDE DOWNWARDS HARPOON WITH BARB RIGHT",
    "LEFTWARDS HARPOON WITH BARB UP ABOVE RIGHTWARDS HARPOON WITH BARB UP",
    "dDOWN ABOVE RIGHTWARDS HARPOON WITH BARB DOWN",
    "RIGHTWARDS HARPOON WITH BARB UP ABOVE LEFTWARDS HARPOON WITH BARB UP",
    "dDOWN ABOVE LEFTWARDS HARPOON WITH BARB DOWN,LEFTWARDS HARPOON WITH BARB UP ABOVE LONG DASH,dDOWN BELOWb",
    "RIGHTWARDS HARPOON WITH BARB UP ABOVEb,dDOWN BELOWb",
    "UPWARDS HARPOON WITH BARB LEFT BESIDE DOWNWARDS HARPOON WITH BARB RIGHT",
    "DOWNWARDS HARPOON WITH BARB LEFT BESIDE UPWARDSd,RIGHT DOUBLE ARROW WITH ROUNDED HEAD",
    "EQUALS SIGN ABOVE RIGHTWARDS ARROW,TILDE OPERATORc,LEFTWARDS ARROW ABOVE TILDE OPERATOR,RIGHTWARDSd",
    "cALMOST EQUAL TO,LESS-THAN ABOVE LEFTWARDS ARROW,LEFTWARDS ARROW THROUGH LESS-THAN",
    "GREATER-THAN ABOVE RIGHTWARDS ARROW,SUBSETc,LEFTWARDS ARROW THROUGH SUBSET,SUPERSET ABOVE LEFTWARDS ARROW",
    "LEFT FISH TAIL,RIGHTb,UPb,DOWNb,TRIPLE VERTICAL BAR DELIMITER,Z NOTATION SPOT,bTYPE COLON",
    "LEFT WHITE CURLY BRACKET,RIGHTc,LEFT WHITE PARENTHESIS,RIGHTb,Z NOTATION LEFT IMAGE BRACKET,bRIGHTb",
    "bLEFT BINDINGa,bRIGHTb,LEFT SQUARE BRACKET WITH UNDERBAR,RIGHTd,LEFT SQUARE BRACKET WITH TICK IN TOP CORNER",
    "RIGHT SQUARE BRACKET WITH TICK IN BOTTOMa,LEFTg,RIGHT SQUARE BRACKET WITH TICK IN TOPa",
    "LEFT ANGLE BRACKET WITH DOT,RIGHTd,LEFT ARC LESS-THAN BRACKET,RIGHT ARC GREATER-THANa,DOUBLE LEFTc",
    "aRIGHT ARC LESS-THANa,LEFT BLACK TORTOISE SHELLa,RIGHTd,DOTTED FENCE,VERTICAL ZIGZAG LINE",
    "MEASURED ANGLE OPENING LEFT,RIGHT ANGLE VARIANT WITH SQUARE,MEASURED RIGHT ANGLE WITH DOT,ANGLE WITH S INSIDE",
    "ACUTE ANGLE,SPHERICAL ANGLE OPENING LEFT,cUP,TURNED ANGLE,REVERSEDa,ANGLE WITH UNDERBAR,REVERSEDc",
    "OBLIQUE ANGLE OPENING UP,cDOWN,MEASURED ANGLE WITH OPEN ARM ENDING IN ARROW POINTING UP AND RIGHT,kLEFT",
    "iDOWN AND RIGHT,kLEFT,iRIGHT AND UP,iLEFTb,iRIGHT AND DOWN,iLEFTb,REVERSED EMPTY SET,EMPTY SET WITH OVERBAR",
    "cSMALL CIRCLE ABOVE,cRIGHT ARROWa,cLEFTb,CIRCLE WITH HORIZONTAL BAR,CIRCLED VERTICALa,aPARALLEL",
    "aREVERSE SOLIDUS,aPERPENDICULAR,CIRCLE DIVIDED BY HORIZONTAL BAR AND TOP HALF DIVIDED BY VERTICAL BAR",
    "aWITH SUPERIMPOSED X,CIRCLED ANTICLOCKWISE-ROTATED DIVISION SIGN,UP ARROW THROUGH CIRCLE,CIRCLED WHITE BULLET",
    "aa,aLESS-THAN,aGREATER-THAN,CIRCLE WITH SMALL CIRCLE TO THE RIGHT,bTWO HORIZONTAL STROKESc",
    "SQUARED RISING DIAGONAL SLASH,aFALLINGb,aASTERISK,aSMALL CIRCLE,aSQUARE,TWO JOINED SQUARES",
    "TRIANGLE WITH DOT ABOVE,bUNDERBAR,S IN TRIANGLE,TRIANGLE WITH SERIFS AT BOTTOM",
    "RIGHT TRIANGLE ABOVE LEFT TRIANGLE,LEFT TRIANGLE BESIDE VERTICAL BAR,VERTICAL BAR BESIDE RIGHT TRIANGLE",
    "BOWTIE WITH LEFT HALF BLACK,bRIGHTb,BLACK BOWTIE,TIMES WITH LEFT HALF BLACK,bRIGHTb,WHITE HOURGLASS,BLACKa",
    "LEFT WIGGLY FENCE,RIGHTb,LEFT DOUBLEb,RIGHTc,INCOMPLETE INFINITY,TIE OVERa,INFINITY NEGATED WITH VERTICAL BAR",
    "DOUBLE-ENDED MULTIMAP,SQUARE WITH CONTOURED OUTLINE,INCREASES AS,SHUFFLE PRODUCT",
    "EQUALS SIGN AND SLANTED PARALLEL,eWITH TILDE ABOVE,IDENTICAL TO AND SLANTED PARALLEL,GLEICH STARK,THERMODYNAMIC",
    "DOWN-POINTING TRIANGLE WITH LEFT HALF BLACK,cRIGHTb,BLACK DIAMOND WITH DOWN ARROW,aLOZENGE",
    "WHITE CIRCLE WITH DOWN ARROW,BLACKd,ERROR-BARRED WHITE SQUARE,aBLACKa,aWHITE DIAMOND,aBLACKa,aWHITE CIRCLE",
    "aBLACKa,RULE-DELAYED,REVERSE SOLIDUS OPERATOR,SOLIDUS WITH OVERBAR,REVERSE SOLIDUS WITH HORIZONTAL STROKE",
    "BIG SOLIDUS,aREVERSEa,DOUBLE PLUS,TRIPLEa,LEFT-POINTING CURVED ANGLE BRACKET,RIGHT-POINTINGc,TINY,MINY"]),
  (0x2A00, ["N-ARY CIRCLED DOT OPERATOR,bPLUSa,bTIMESa,aUNION OPERATOR WITH DOT,dPLUS,aSQUARE INTERSECTION OPERATOR",
    "bUNIONa,TWO LOGICAL ANDa,bORa,N-ARY TIMESa,MODULO TWO SUM,SUMMATION WITH INTEGRAL,QUADRUPLE INTEGRAL OPERATOR",
    "FINITE PART INTEGRAL,INTEGRAL WITH DOUBLE STROKE,aAVERAGE WITH SLASH,CIRCULATION FUNCTION",
    "ANTICLOCKWISE INTEGRATION,LINE INTEGRATION WITH RECTANGULAR PATH AROUND POLE,cSEMICIRCULARc,bNOT INCLUDING THEa",
    "INTEGRAL AROUND A POINT OPERATOR,QUATERNION INTEGRALa,INTEGRAL WITH LEFTWARDS ARROW WITH HOOK,bTIMES SIGN",
    "bINTERSECTION,bUNION,bOVERBAR,bUNDERBAR,JOIN,LARGE LEFT TRIANGLE OPERATOR,Z NOTATION SCHEMA COMPOSITION,cPIPING",
    "cPROJECTION,PLUS SIGN WITH SMALL CIRCLE ABOVE,cCIRCUMFLEX ACCENTa,cTILDEa,cDOT BELOW,cTILDEa,cSUBSCRIPT TWO",
    "cBLACK TRIANGLE,MINUS SIGN WITH COMMA ABOVE,cDOT BELOW,cFALLING DOTS,cRISINGa,PLUS SIGN IN LEFT HALF CIRCLE",
    "cRIGHTb,VECTOR OR CROSS PRODUCT,MULTIPLICATION SIGN WITH DOT ABOVE,cUNDERBAR",
    "SEMIDIRECT PRODUCT WITH BOTTOM CLOSED,SMASH PRODUCT,MULTIPLICATION SIGN IN LEFT HALF CIRCLE,cRIGHTb",
    "CIRCLED MULTIPLICATION SIGN WITH CIRCUMFLEX ACCENT,MULTIPLICATION SIGN IN DOUBLE CIRCLE,CIRCLED DIVISION SIGN",
    "PLUS SIGN IN TRIANGLE,MINUSc,MULTIPLICATIONc,INTERIOR PRODUCT,RIGHTHANDb,Z NOTATION RELATIONAL COMPOSITION",
    "AMALGAMATION OR COPRODUCT,INTERSECTION WITH DOT,UNION WITH MINUS SIGN,bOVERBAR,INTERSECTIONb,bLOGICAL AND",
    "UNION WITH LOGICAL OR,aABOVE INTERSECTION,INTERSECTION ABOVE UNION,UNION ABOVE BAR ABOVE INTERSECTION",
    "INTERSECTION ABOVE BAR ABOVE UNION,UNION BESIDE AND JOINED WITHa",
    "INTERSECTION BESIDE AND JOINED WITH INTERSECTION,CLOSED UNION WITH SERIFS,aINTERSECTIONb",
    "DOUBLE SQUARE INTERSECTION,bUNION,CLOSED UNION WITH SERIFS AND SMASH PRODUCT,LOGICAL AND WITH DOT ABOVE,aORc",
    "DOUBLE LOGICAL AND,bOR,TWO INTERSECTING LOGICAL AND,cOR,SLOPING LARGEa,bAND,LOGICAL OR OVERLAPPING LOGICALa",
    "aAND WITH MIDDLE STEM,aORc,aAND WITH HORIZONTAL DASH,aORc,aAND WITH DOUBLE OVERBAR,cUNDERBAR,cDOUBLEa",
    "SMALL VEE WITHa,LOGICAL OR WITH DOUBLE OVERBAR,dUNDERBAR,Z NOTATION DOMAIN ANTIRESTRICTION,bRANGEa",
    "EQUALS SIGN WITH DOT BELOW,IDENTICAL WITH DOT ABOVE,TRIPLE HORIZONTAL BAR WITH DOUBLE VERTICAL STROKE,dTRIPLEb",
    "TILDE OPERATOR WITH DOT ABOVE,cRISING DOTS,SIMILAR MINUS SIMILAR,CONGRUENT WITH DOT ABOVE,EQUALS WITH ASTERISK",
    "ALMOST EQUAL TO WITH CIRCUMFLEX ACCENT,APPROXIMATELY EQUAL OR EQUAL TO,EQUALS SIGN ABOVE PLUS SIGN",
    "PLUS SIGN ABOVE EQUALSa,EQUALS SIGN ABOVE TILDE OPERATOR,DOUBLE COLON EQUAL,TWO CONSECUTIVE EQUALS SIGNS,THREEc",
    "EQUALS SIGN WITH TWO DOTS ABOVE AND TWO DOTS BELOW,EQUIVALENT WITH FOUR DOTS ABOVE,LESS-THAN WITH CIRCLE INSIDE",
    "GREATER-THANc,LESS-THAN WITH QUESTION MARK ABOVE,GREATER-THANd,LESS-THAN OR SLANTED EQUAL TO,GREATER-THANd",
    "LESS-THAN OR SLANTED EQUAL TO WITH DOT INSIDE,GREATER-THANg,LESS-THAN OR SLANTED EQUAL TO WITH DOT ABOVE",
    "GREATER-THANg,LESS-THAN OR SLANTED EQUAL TO WITH DOT ABOVE RIGHT",
    "GREATER-THAN OR SLANTED EQUAL TO WITH DOT ABOVE LEFT,LESS-THAN OR APPROXIMATE,GREATER-THANb",
    "LESS-THAN AND SINGLE-LINE NOT EQUAL TO,GREATER-THANe,LESS-THAN AND NOT APPROXIMATE,GREATER-THANc",
    "LESS-THAN ABOVE DOUBLE-LINE EQUAL ABOVE GREATER-THAN,GREATER-THAN ABOVE DOUBLE-LINE EQUAL ABOVE LESS-THAN",
    "LESS-THAN ABOVE SIMILAR OR EQUAL,GREATER-THANd,LESS-THAN ABOVE SIMILAR ABOVE GREATER-THAN",
    "GREATER-THAN ABOVE SIMILAR ABOVE LESS-THAN,LESS-THAN ABOVE GREATER-THAN ABOVE DOUBLE-LINE EQUAL",
    "GREATER-THAN ABOVE LESS-THANc,LESS-THAN ABOVE SLANTED EQUAL ABOVE GREATER-THAN ABOVE SLANTEDa",
    "GREATER-THAN ABOVE SLANTED EQUAL ABOVE LESS-THANc,SLANTED EQUAL TO OR LESS-THAN,dGREATER-THAN",
    "dLESS-THAN WITH DOT INSIDE,dGREATER-THANc,DOUBLE-LINE EQUAL TO OR LESS-THAN,dGREATER-THAN",
    "aSLANTED EQUAL TO OR LESS-THAN,eGREATER-THAN,SIMILAR OR LESS-THAN,bGREATER-THAN",
    "aABOVE LESS-THAN ABOVE EQUALS SIGN,bGREATER-THANc,DOUBLE NESTED LESS-THAN,bGREATER-THAN",
    "bLESS-THAN WITH UNDERBAR,GREATER-THAN OVERLAPPING LESS-THAN,aBESIDEa,LESS-THAN CLOSED BY CURVE,GREATER-THANc",
    "LESS-THAN CLOSED BY CURVE ABOVE SLANTED EQUAL,GREATER-THANf,SMALLER THAN,LARGERa,SMALLER THAN OR EQUAL TO",
    "LARGERd,EQUALS SIGN WITH BUMPY ABOVE,PRECEDES ABOVE SINGLE-LINE EQUALS SIGN,SUCCEEDSd",
    "PRECEDES ABOVE SINGLE-LINE NOT EQUAL TO,SUCCEEDSe,PRECEDES ABOVE EQUALS SIGN,SUCCEEDSc",
    "PRECEDES ABOVE NOT EQUAL TO,SUCCEEDSd,PRECEDES ABOVE ALMOSTb,SUCCEEDSd,PRECEDES ABOVE NOTc,SUCCEEDSe",
    "DOUBLE PRECEDES,aSUCCEEDS,SUBSET WITH DOT,SUPERSETb,SUBSET WITH PLUS SIGN BELOW,SUPERSETd",
    "SUBSET WITH MULTIPLICATIONb,SUPERSETd,SUBSET OF OR EQUAL TO WITH DOT ABOVE,SUPERSETg",
    "SUBSET OF ABOVE EQUALS SIGN,SUPERSETd,SUBSET OF ABOVE TILDE OPERATOR,SUPERSETd,SUBSET OF ABOVE ALMOST EQUAL TO",
    "SUPERSETe,SUBSET OF ABOVE NOTb,SUPERSETe,SQUARE LEFT OPEN BOX OPERATOR,aRIGHTc,CLOSED SUBSET,aSUPERSET",
    "aSUBSET OR EQUAL TO,aSUPERSETc,SUBSET ABOVE SUPERSET,SUPERSET ABOVE SUBSET,SUBSETb,SUPERSET ABOVE SUPERSET",
    "aBESIDE SUBSET,bAND JOINED BY DASH WITHa,ELEMENT OF OPENING DOWNWARDS,PITCHFORK WITH TEE TOP",
    "TRANSVERSAL INTERSECTION,FORKING,NONFORKING,SHORT LEFT TACK,aDOWNa,aUPa,PERPENDICULAR WITH S",
    "VERTICAL BAR TRIPLE RIGHT TURNSTILE,DOUBLE VERTICAL BAR LEFTa,VERTICAL BAR DOUBLEb,DOUBLEe",
    "LONG DASH FROM LEFT MEMBER OF DOUBLE VERTICAL,SHORT DOWN TACK WITH OVERBAR,aUP TACK WITH UNDERBAR",
    "cABOVE SHORT DOWN TACK,DOUBLEb,aUPa,aSTROKE NOT SIGN,REVERSEDd,DOES NOT DIVIDE WITH REVERSED NEGATION SLASH",
    "VERTICAL LINE WITH CIRCLE ABOVE,dBELOW,DOWN TACKc,PARALLEL WITH HORIZONTAL STROKE,bTILDE OPERATOR",
    "TRIPLE VERTICAL BAR BINARY RELATION,cWITH HORIZONTAL STROKE,aCOLON OPERATOR,aNESTED LESS-THAN,bGREATER-THAN",
    "DOUBLE-LINE SLANTED LESS-THAN OR EQUAL TO,bGREATER-THANc,TRIPLE SOLIDUS BINARY RELATION",
    "LARGE TRIPLE VERTICAL BAR OPERATOR,DOUBLE SOLIDUSa,WHITE VERTICAL BAR,N-ARYc"]),
  (0x2B00, ["NORTH EAST WHITE ARROW,aWESTb,SOUTH EASTb,aWESTb,LEFT RIGHTb,LEFTWARDS BLACKa,UPWARDSb,DOWNWARDSb",
    "NORTH EASTb,aWESTb,SOUTH EASTb,aWESTb,LEFT RIGHTb,UP DOWNb,RIGHTWARDS ARROW WITH TIP DOWNWARDS,dUPWARDS",
    "LEFTWARDS ARROW WITH TIP DOWNWARDS,dUPWARDS,SQUARE WITH TOP HALF BLACK,bBOTTOMb,bUPPER RIGHT DIAGONALb",
    "bLOWER LEFTc,DIAMOND WITH LEFTb,bRIGHTb,bTOPb,bBOTTOMb,DOTTED SQUARE,BLACK LARGEa,WHITEb,BLACK VERY SMALLa",
    "WHITEc,BLACK PENTAGON,WHITEa,aHEXAGON,BLACKa,HORIZONTALb,BLACK LARGE CIRCLE,aMEDIUM DIAMOND,WHITEb",
    "BLACK MEDIUM LOZENGE,WHITEb,BLACK SMALL DIAMOND,bLOZENGE,WHITEb,BLACK HORIZONTAL ELLIPSE,WHITEb,BLACK VERTICALa",
    "WHITEb,LEFT ARROW WITH SMALL CIRCLE,THREE LEFTWARDS ARROWS,LEFT ARROW WITH CIRCLED PLUS",
    "LONG LEFTWARDS SQUIGGLE ARROW,LEFTWARDS TWO-HEADED ARROW WITH VERTICAL STROKE,dDOUBLEb,cFROM BAR",
    "bTRIPLE DASH ARROW,aARROW WITH DOTTED STEM,cTAIL WITH VERTICAL STROKE,eDOUBLEb,aTWO-HEADED ARROW WITH TAIL",
    "eWITH VERTICAL STROKE,fDOUBLEb,aARROW THROUGH X,WAVE ARROW POINTING DIRECTLY LEFT",
    "EQUALS SIGN ABOVE LEFTWARDS ARROW,REVERSE TILDE OPERATORc,LEFTWARDS ARROW ABOVE REVERSE ALMOST EQUAL TO",
    "RIGHTWARDS ARROW THROUGH GREATER-THAN,cSUPERSET,LEFTWARDS QUADRUPLE ARROW,RIGHTWARDSb",
    "REVERSE TILDE OPERATOR ABOVE RIGHTWARDSa,RIGHTWARDS ARROW ABOVE REVERSE ALMOST EQUAL TO",
    "TILDE OPERATOR ABOVE LEFTWARDS ARROW,LEFTWARDS ARROW ABOVE ALMOST EQUAL TO,cREVERSE TILDE OPERATOR,RIGHTWARDSe",
    "DOWNWARDS TRIANGLE-HEADED ZIGZAG ARROW,SHORT SLANTED NORTHa,aBACKSLANTED SOUTHa,WHITE MEDIUM STAR,BLACK SMALLa",
    "WHITEb,BLACK RIGHT-POINTING PENTAGON,WHITEb,HEAVY LARGE CIRCLE,aOVAL WITH OVAL INSIDE,aCIRCLE WITH CIRCLEa,b",
    "aCIRCLED SALTIRE,SLANTED NORTH ARROW WITH HOOKED HEAD,BACKSLANTED SOUTH ARROW WITH HOOKED TAIL",
    "SLANTED NORTH ARROW WITH HORIZONTALa,BACKSLANTED SOUTHd,BENT ARROW POINTING DOWNWARDS THEN NORTH EAST,SHORTg",
    "LEFTWARDS TRIANGLE-HEADED ARROW,UPWARDSb,RIGHTWARDSb,DOWNWARDSb,LEFT RIGHTb,UP DOWNb,NORTH WESTb,aEASTb,SOUTHc",
    "aWESTb,LEFTWARDS TRIANGLE-HEADED DASHEDa,UPWARDSc,RIGHTWARDSc,DOWNWARDSc,CLOCKWISE TRIANGLE-HEADED OPEN CIRCLEa",
    "ANTICLOCKWISEd,LEFTWARDS TRIANGLE-HEADED ARROW TO BAR,UPWARDSd,RIGHTWARDSd,DOWNWARDSd,,,NORTH WESTd,aEASTd",
    "SOUTHe,aWESTd,LEFTWARDS TRIANGLE-HEADED ARROW WITH DOUBLE HORIZONTAL STROKE,UPWARDSf,RIGHTWARDSf,DOWNWARDSf",
    "HORIZONTAL TAB KEY,VERTICALb,LEFTWARDS TRIANGLE-HEADED ARROW OVER RIGHTWARDS TRIANGLE-HEADED ARROW",
    "UPWARDS TRIANGLE-HEADED ARROW LEFTWARDS OF DOWNWARDSb,RIGHTWARDS TRIANGLE-HEADED ARROW OVER LEFTWARDSb",
    "DOWNWARDS TRIANGLE-HEADED ARROW LEFTWARDS OF UPWARDSb,LEFTWARDS TRIANGLE-HEADED PAIRED ARROWS,UPWARDSc",
    "RIGHTWARDSc,DOWNWARDSc,LEFTWARDS BLACK CIRCLED WHITE ARROW,UPWARDSd,RIGHTWARDSd,DOWNWARDSd",
    "ANTICLOCKWISE TRIANGLE-HEADED RIGHT U-SHAPEDa,bBOTTOMb,bLEFTb,bTOPb,RETURN LEFT,aRIGHT,NEWLINE LEFT,aRIGHT",
    "FOUR CORNER ARROWS CIRCLING ANTICLOCKWISE,RIGHTWARDS BLACK ARROW,,SYMBOL FOR TYPE A ELECTRONICS",
    "THREE-D TOP-LIGHTED LEFTWARDS EQUILATERAL ARROWHEAD,aRIGHT-LIGHTED UPWARDSb,aTOP-LIGHTED RIGHTWARDSb",
    "aLEFT-LIGHTED DOWNWARDSb,BLACK LEFTWARDSb,aUPWARDSb,aRIGHTWARDSb,aDOWNWARDSb",
    "DOWNWARDS TRIANGLE-HEADED ARROW WITH LONG TIP LEFTWARDS,fRIGHTWARDS",
    "UPWARDS TRIANGLE-HEADED ARROW WITH LONG TIP LEFTWARDS,fRIGHTWARDS",
    "LEFTWARDS TRIANGLE-HEADED ARROW WITH LONG TIP UPWARDS,RIGHTWARDSf",
    "LEFTWARDS TRIANGLE-HEADED ARROW WITH LONG TIP DOWNWARDS,RIGHTWARDSf,BLACK CURVED DOWNWARDS AND LEFTWARDS ARROW",
    "dRIGHTWARDSa,bUPWARDS AND LEFTWARDSa,dRIGHTWARDSa,bLEFTWARDS AND UPWARDSa,bRIGHTWARDSc",
    "bLEFTWARDS AND DOWNWARDSa,bRIGHTWARDSc,RIBBON ARROW DOWN LEFT,cRIGHT,bUP LEFT,cRIGHT,bLEFT UP,bRIGHTa",
    "bLEFT DOWN,bRIGHTa,UPWARDS WHITE ARROW FROM BAR WITH HORIZONTAL BAR,UP ARROWHEAD IN A RECTANGLE BOX",
    "OVERLAPPING WHITE SQUARES,bAND BLACKa,ab,BALLOT BOX WITH LIGHT X,CIRCLEDa,aBOLDa,BLACK SQUARE CENTRED,aDIAMONDa",
    "TURNED BLACK PENTAGON,HORIZONTAL BLACK OCTAGON,BLACK OCTAGON,aMEDIUM UP-POINTING TRIANGLE CENTRED",
    "bDOWN-POINTINGb,bLEFT-POINTINGb,bRIGHT-POINTINGb,NEPTUNE FORM TWO,TOP HALF BLACK CIRCLE,BOTTOMc",
    "LIGHT FOUR POINTED BLACK CUSP,ROTATEDe,WHITE FOUR POINTEDa,ROTATEDd,SQUARE POSITION INDICATOR,UNCERTAINTY SIGN",
    "GROUP MARK,PLUTO FORM TWO,bTHREE,bFOUR,bFIVE,TRANSPLUTO,PROSERPINA,ASTRAEA,HYGIEA,PHOLUS,NESSUS",
    "WHITE MOON SELENA,BLACK DIAMOND ON CROSS,TRUE LIGHT MOON ARTA,CUPIDO,HADES,ZEUS,KRONOS,APOLLON,ADMETOS,VULCANUS",
    "POSEIDON,LEFT HALF BLACK STAR,RIGHTc,STAR WITH LEFT HALF BLACK,bRIGHTb",
    "LEFTWARDS TWO-HEADED ARROW WITH TRIANGLE ARROWHEADS,UPWARDSe,RIGHTWARDSe,DOWNWARDSe,ERIS FORM ONE,bTWO,SEDNA",
    "RUSSIAN ASTROLOGICAL SYMBOL VIGINTILE,cNOVILE,cQUINTILE,cBINOVILE,cSENTAGON,cTREDECILE",
    "EQUALS SIGN WITH INFINITY BELOW,UNITED SYMBOL,SEPARATEDa,DOUBLEDa,PASSEDa,REVERSED RIGHT ANGLE",
    "HELLSCHREIBER PAUSE SYMBOL"]),
  (0x2C00, ["GLAGOLITIC CAPITAL LETTER AZU,cBUKY,cVEDE,cGLAGOLI,cDOBRO,cYESTU,cZHIVETE,cDZELO,cZEMLJA,cIZHE",
    "cINITIALa,cI,cDJERVI,cKAKO,cLJUDIJE,cMYSLITE,cNASHI,cONU,cPOKOJI,cRITSI,cSLOVO,cTVRIDO,cUKU,cFRITU,cHERU,cOTU",
    "cPE,cSHTA,cTSI,cCHRIVI,cSHA,cYERU,cYERI,cYATI,cSPIDERY HA,cYU,cSMALL YUS,eWITH TAIL,cYO,cIOTATED SMALL YUS",
    "cBIGa,cIOTATEDb,cFITA,cIZHITSA,cSHTAPIC,cTROKUTASTI A,cLATINATE MYSLITE,cCAUDATE CHRIVI,aSMALL LETTER AZU,cBUKY",
    "cVEDE,cGLAGOLI,cDOBRO,cYESTU,cZHIVETE,cDZELO,cZEMLJA,cIZHE,cINITIALa,cI,cDJERVI,cKAKO,cLJUDIJE,cMYSLITE,cNASHI",
    "cONU,cPOKOJI,cRITSI,cSLOVO,cTVRIDO,cUKU,cFRITU,cHERU,cOTU,cPE,cSHTA,cTSI,cCHRIVI,cSHA,cYERU,cYERI,cYATI",
    "cSPIDERY HA,cYU,cSMALL YUS,eWITH TAIL,cYO,cIOTATED SMALL YUS,cBIGa,cIOTATEDb,cFITA,cIZHITSA,cSHTAPIC",
    "cTROKUTASTI A,cLATINATE MYSLITE,cCAUDATE CHRIVI,LATIN CAPITAL LETTER L WITH DOUBLE BAR,aSMALLe",
    "aCAPITAL LETTER L WITH MIDDLE TILDE,cP WITH STROKE,cR WITH TAIL,aSMALL LETTER A WITH STROKE,cT WITH DIAGONALa",
    "aCAPITAL LETTER H WITH DESCENDER,aSMALLd,aCAPITAL LETTER Kb,aSMALLd,aCAPITAL LETTER Zb,aSMALLd",
    "aCAPITAL LETTER ALPHA,cM WITH HOOK,cTURNED A,dALPHA,aSMALL LETTER V WITH RIGHT HOOK,aCAPITAL LETTER W WITHa",
    "aSMALLd,cV WITH CURL,aCAPITAL LETTER HALF H,aSMALLc,cTAILLESS PHI,cE WITH NOTCH,cTURNED R WITH TAIL",
    "cO WITH LOW RING INSIDE,aLETTER SMALL CAPITAL TURNED E,aSUBSCRIPT SMALL LETTER J,MODIFIER LETTER CAPITAL V",
    "LATIN CAPITAL LETTER S WITH SWASH TAIL,cZc,COPTIC CAPITAL LETTER ALFA,aSMALLb,aCAPITAL LETTER VIDA,aSMALLb",
    "aCAPITAL LETTER GAMMA,aSMALLb,aCAPITAL LETTER DALDA,aSMALLb,aCAPITAL LETTER EIE,aSMALLb,aCAPITAL LETTER SOU",
    "aSMALLb,aCAPITAL LETTER ZATA,aSMALLb,aCAPITAL LETTER HATE,aSMALLb,aCAPITAL LETTER THETHE,aSMALLb",
    "aCAPITAL LETTER IAUDA,aSMALLb,aCAPITAL LETTER KAPA,aSMALLb,aCAPITAL LETTER LAULA,aSMALLb,aCAPITAL LETTER MI",
    "aSMALLb,aCAPITAL LETTER NI,aSMALLb,aCAPITAL LETTER KSI,aSMALLb,aCAPITAL LETTER O,aSMALLb,aCAPITAL LETTER PI",
    "aSMALLb,aCAPITAL LETTER RO,aSMALLb,aCAPITAL LETTER SIMA,aSMALLb,aCAPITAL LETTER TAU,aSMALLb,aCAPITAL LETTER UA",
    "aSMALLb,aCAPITAL LETTER FI,aSMALLb,aCAPITAL LETTER KHI,aSMALLb,aCAPITAL LETTER PSI,aSMALLb,aCAPITAL LETTER OOU",
    "aSMALLb,aCAPITAL LETTER DIALECT-P ALEF,aSMALLc,aCAPITAL LETTER OLD COPTIC AIN,aSMALLd",
    "aCAPITAL LETTER CRYPTOGRAMMIC EIE,aSMALLc,aCAPITAL LETTER DIALECT-P KAPA,aSMALLc,aCAPITAL LETTER DIALECT-P NI",
    "aSMALLc,aCAPITAL LETTER CRYPTOGRAMMICa,aSMALLc,aCAPITAL LETTER OLD COPTIC OOU,aSMALLd,aCAPITAL LETTER SAMPI",
    "aSMALLb,aCAPITAL LETTER CROSSED SHEI,aSMALLc,aCAPITAL LETTER OLD COPTICa,aSMALLd,aCAPITAL LETTER OLD COPTIC ESH",
    "aSMALLd,aCAPITAL LETTER AKHMIMIC KHEI,aSMALLc,aCAPITAL LETTER DIALECT-P HORI,aSMALLc",
    "aCAPITAL LETTER OLD COPTICa,aSMALLd,aCAPITAL LETTER OLD COPTIC HA,aSMALLd,aCAPITAL LETTER L-SHAPEDa,aSMALLc",
    "aCAPITAL LETTER OLD COPTIC HEI,aSMALLd,aCAPITAL LETTER OLD COPTIC HAT,aSMALLd,aCAPITAL LETTER OLD COPTIC GANGIA",
    "aSMALLd,aCAPITAL LETTER OLD COPTIC DJA,aSMALLd,aCAPITAL LETTER OLD COPTIC SHIMA,aSMALLd",
    "aCAPITAL LETTER OLD NUBIANa,aSMALLd,aCAPITAL LETTER OLD NUBIAN NGI,aSMALLd,aCAPITAL LETTER OLD NUBIAN NYI",
    "aSMALLd,aCAPITAL LETTER OLD NUBIAN WAU,aSMALLd,aSYMBOL KAI,bMI RO,bPIa,bSTAUROS,bTAU RO,bKHIa,bSHIMA SIMA",
    "aCAPITAL LETTER CRYPTOGRAMMIC SHEI,aSMALLc,aCAPITAL LETTER CRYPTOGRAMMIC GANGIA,aSMALLc,aCOMBINING NI ABOVE",
    "bSPIRITUS ASPER,cLENIS,aCAPITAL LETTER BOHAIRIC KHEI,aSMALLc"]),
  (0x2CF9, ["COPTIC OLD NUBIAN FULL STOP,cDIRECT QUESTION MARK,cINDIRECTb,cVERSE DIVIDER,aFRACTION ONE HALF",
    "aFULL STOP,aMORPHOLOGICAL DIVIDER"]),
  (0x2D00, ["GEORGIAN SMALL LETTER AN,cBAN,cGAN,cDON,cEN,cVIN,cZEN,cTAN,cIN,cKAN,cLAS,cMAN,cNAR,cON,cPAR,cZHAR,cRAE",
    "cSAN,cTAR,cUN,cPHAR,cKHAR,cGHAN,cQAR,cSHIN,cCHIN,cCAN,cJIL,cCIL,cCHAR,cXAN,cJHAN,cHAE,cHE,cHIE,cWE,cHAR,cHOE,",
    "cYN"]),
  (0x2D2D, ["GEORGIAN SMALL LETTER AEN,,,TIFINAGH LETTER YA,bYAB,bYABH,bYAG,bYAGHH,bBERBER ACADEMY YAJ,ba,bYAD,bYADH",
    "bYADD,bYADDH,bYEY,bYAF,bYAK,bTUAREGa,bYAKHH,bYAH,bBERBER ACADEMYa,bTUAREGa,bYAHH,bYAA,bYAKH,bTUAREGa,bYAQ",
    "bTUAREGa,bYI,bYAZH,bAHAGGARa,bTUAREGa,bYAL,bYAM,bYAN,bTUAREG YAGN,cYANG,bYAP,bYU,bYAR,bYARR,bYAGH,bTUAREGa",
    "bAYERa,bYAS,bYASS,bYASH,bYAT,bYATH,bYACH,bYATT,bYAV,bYAW,bYAY,bYAZ,bTAWELLEMETa,bYAZZ,bYE,bYO"]),
  (0x2D6F, ["TIFINAGH MODIFIER LETTER LABIALIZATION MARK,aSEPARATORa"]),
  (0x2D7F, ["TIFINAGH CONSONANT JOINER,ETHIOPIC SYLLABLE LOA,bMOA,bROA,bSOA,bSHOA,bBOA,bTOA,bCOA,bNOA,bNYOA",
    "bGLOTTAL OA,bZOA,bDOA,bDDOA,bJOA,bTHOA,bCHOA,bPHOA,bPOA,bGGWA,bGGWI,bGGWEE,bGGWE"]),
  (0x2DA0, ["ETHIOPIC SYLLABLE SSA,bSSU,bSSI,bSSAA,bSSEE,bSSE,bSSO,,bCCA,bCCU,bCCI,bCCAA,bCCEE,bCCE,bCCO,,bZZA,bZZU",
    "bZZI,bZZAA,bZZEE,bZZE,bZZO,,bCCHA,bCCHU,bCCHI,bCCHAA,bCCHEE,bCCHE,bCCHO,,bQYA,bQYU,bQYI,bQYAA,bQYEE,bQYE,bQYO,",
    "bKYA,bKYU,bKYI,bKYAA,bKYEE,bKYE,bKYO,,bXYA,bXYU,bXYI,bXYAA,bXYEE,bXYE,bXYO,,bGYA,bGYU,bGYI,bGYAA,bGYEE,bGYE",
    "bGYO,,COMBINING CYRILLIC LETTER BE,cVE,cGHE,cDE,cZHE,cZE,cKA,cEL,cEM,cEN,cO,cPE,cER,cES,cTE,cHA,cTSE,cCHE,cSHA",
    "cSHCHA,cFITA,cES-TE,cA,cIE,cDJERV,cMONOGRAPH UK,cYAT,cYU,cIOTIFIED A,cLITTLE YUS,cBIGa,cIOTIFIEDb"]),
  (0x2E00, ["RIGHT ANGLE SUBSTITUTION MARKER,bDOTTEDb,LEFT SUBSTITUTION BRACKET,RIGHTb,LEFT DOTTEDb,RIGHTc",
    "RAISED INTERPOLATION MARKER,aDOTTEDb,DOTTED TRANSPOSITIONa,LEFT TRANSPOSITION BRACKET,RIGHTb,RAISED SQUARE",
    "LEFT RAISED OMISSION BRACKET,RIGHTc,EDITORIAL CORONIS,PARAGRAPHOS,FORKEDa,REVERSEDb,HYPODIASTOLE,DOTTED OBELOS",
    "DOWNWARDS ANCORA,UPWARDSa,DOTTED RIGHT-POINTING ANGLE,DOUBLE OBLIQUE HYPHEN,INVERTED INTERROBANG,PALM BRANCH",
    "HYPHEN WITH DIAERESIS,TILDE WITH RING ABOVE,LEFT LOW PARAPHRASE BRACKET,RIGHTc,TILDE WITH DOT ABOVE,cBELOW",
    "LEFT VERTICAL BAR WITH QUILL,RIGHTd,TOP LEFT HALF BRACKET,aRIGHTb,BOTTOM LEFTb,aRIGHTb,LEFT SIDEWAYS Ua,RIGHTc",
    "LEFT DOUBLE PARENTHESIS,RIGHTb,TWO DOTS OVER ONE DOT PUNCTUATION,ONE DOT OVER TWO DOTSa,SQUARED FOUR DOTa",
    "FIVE DOT MARK,REVERSED QUESTIONa,VERTICAL TILDE,RING POINT,WORD SEPARATOR MIDDLE DOT,TURNED COMMA,RAISED DOT",
    "aCOMMA,TURNED SEMICOLON,DAGGER WITH LEFT GUARD,bRIGHTa,TURNED DAGGER,TOP HALF SECTION SIGN,TWO-EM DASH",
    "THREE-EMa,STENOGRAPHIC FULL STOP,VERTICAL SIX DOTS,WIGGLY VERTICAL LINE,CAPITULUM,DOUBLE HYPHEN,REVERSED COMMA",
    "DOUBLE LOW-REVERSED-9 QUOTATION MARK,DASH WITH LEFT UPTURN,DOUBLE SUSPENSION MARK,INVERTED LOW KAVYKA",
    "cWITH KAVYKA ABOVE,LOW KAVYKA,bWITH DOT,DOUBLE STACKED COMMA,DOTTED SOLIDUS,TRIPLE DAGGER,MEDIEVAL COMMA",
    "PARAGRAPHUS MARK,PUNCTUS ELEVATUSa,CORNISH VERSE DIVIDER,CROSS PATTY WITH RIGHT CROSSBAR,cLEFTa",
    "TIRONIAN SIGN CAPITAL ET,MEDIEVAL EXCLAMATION MARK,aQUESTIONa,LEFT SQUARE BRACKET WITH STROKE,RIGHTd",
    "LEFT SQUARE BRACKET WITH DOUBLEa,RIGHTe,TOP HALF LEFT PARENTHESIS,bRIGHTa,BOTTOM HALF LEFTa,bRIGHTa",
    "OBLIQUE HYPHEN"]),
  (0x2E80, ["CJK RADICAL REPEAT,bCLIFF,bSECOND ONE,cTWO,cTHREE,bPERSON,bBOX,bTABLE,bKNIFE ONE,cTWO,bDIVINATION,bSEAL",
    "bSMALL ONE,cTWO,bLAME ONE,cTWO,cTHREE,cFOUR,bSNAKE,bTHREAD,bSNOUT ONE,cTWO,bHEART ONE,cTWO,bHAND,bRAP,,bCHOKE",
    "bSUN,bMOON,bDEATH,bMOTHER,bCIVILIAN,bWATER ONE,cTWO,bFIRE,bPAW ONE,cTWO,bSIMPLIFIED HALF TREE TRUNK,bCOW,bDOG",
    "bJADE,bBOLT OF CLOTH,bEYE,bSPIRIT ONE,cTWO,bBAMBOO,bSILK,bC-SIMPLIFIEDa,bNET ONE,cTWO,cTHREE,cFOUR,bMESH,bSHEEP",
    "bRAM,bEWE,bOLD,bBRUSH ONE,cTWO,bMEAT,bMORTAR,bGRASS ONE,cTWO,cTHREE,bTIGER,bCLOTHES,bWEST ONE,cTWO",
    "bC-SIMPLIFIED SEE,bSIMPLIFIED HORN,ba,bC-SIMPLIFIED SPEECH,cSHELL,bFOOT,bC-SIMPLIFIED CART,bSIMPLIFIED WALK",
    "bWALK ONE,cTWO,bCITY,bC-SIMPLIFIED GOLD,bLONG ONE,cTWO,bC-SIMPLIFIED LONG,cGATE,bMOUND ONE,cTWO,bRAIN,bBLUE",
    "bC-SIMPLIFIED TANNED LEATHER,cLEAF,cWIND,cFLY,bEAT ONE,cTWO,cTHREE,bC-SIMPLIFIED EAT,bHEAD,bC-SIMPLIFIED HORSE",
    "bBONE,bGHOST,bC-SIMPLIFIED FISH,cBIRD,cSALT,bSIMPLIFIED WHEAT,cYELLOW,bC-SIMPLIFIED FROG,bJ-SIMPLIFIED EVEN",
    "bC-SIMPLIFIEDa,bJ-SIMPLIFIED TOOTH,bC-SIMPLIFIEDa,bJ-SIMPLIFIED DRAGON,bC-SIMPLIFIEDa,bTURTLE,bJ-SIMPLIFIEDa",
    "bC-SIMPLIFIEDa"]),
  (0x2F00, ["KANGXI RADICAL ONE,bLINE,bDOT,bSLASH,bSECOND,bHOOK,bTWO,bLID,bMAN,bLEGS,bENTER,bEIGHT,bDOWN BOX,bCOVER",
    "bICE,bTABLE,bOPEN BOX,bKNIFE,bPOWER,bWRAP,bSPOON,bRIGHT OPEN BOX,bHIDING ENCLOSURE,bTEN,bDIVINATION,bSEAL",
    "bCLIFF,bPRIVATE,bAGAIN,bMOUTH,bENCLOSURE,bEARTH,bSCHOLAR,bGO,cSLOWLY,bEVENING,bBIG,bWOMAN,bCHILD,bROOF,bINCH",
    "bSMALL,bLAME,bCORPSE,bSPROUT,bMOUNTAIN,bRIVER,bWORK,bONESELF,bTURBAN,bDRY,bSHORT THREAD,bDOTTED CLIFF",
    "bLONG STRIDE,bTWO HANDS,bSHOOT,bBOW,bSNOUT,bBRISTLE,bSTEP,bHEART,bHALBERD,bDOOR,bHAND,bBRANCH,bRAP,bSCRIPT",
    "bDIPPER,bAXE,bSQUARE,bNOT,bSUN,bSAY,bMOON,bTREE,bLACK,bSTOP,bDEATH,bWEAPON,bDO NOT,bCOMPARE,bFUR,bCLAN,bSTEAM",
    "bWATER,bFIRE,bCLAW,bFATHER,bDOUBLE X,bHALF TREE TRUNK,bSLICE,bFANG,bCOW,bDOG,bPROFOUND,bJADE,bMELON,bTILE",
    "bSWEET,bLIFE,bUSE,bFIELD,bBOLT OF CLOTH,bSICKNESS,bDOTTED TENT,bWHITE,bSKIN,bDISH,bEYE,bSPEAR,bARROW,bSTONE",
    "bSPIRIT,bTRACK,bGRAIN,bCAVE,bSTAND,bBAMBOO,bRICE,bSILK,bJAR,bNET,bSHEEP,bFEATHER,bOLD,bAND,bPLOW,bEAR,bBRUSH",
    "bMEAT,bMINISTER,bSELF,bARRIVE,bMORTAR,bTONGUE,bOPPOSE,bBOAT,bSTOPPING,bCOLOR,bGRASS,bTIGER,bINSECT,bBLOOD",
    "bWALK ENCLOSURE,bCLOTHES,bWEST,bSEE,bHORN,bSPEECH,bVALLEY,bBEAN,bPIG,bBADGER,bSHELL,bRED,bRUN,bFOOT,bBODY,bCART",
    "bBITTER,bMORNING,bWALK,bCITY,bWINE,bDISTINGUISH,bVILLAGE,bGOLD,bLONG,bGATE,bMOUND,bSLAVE,bSHORT TAILED BIRD",
    "bRAIN,bBLUE,bWRONG,bFACE,bLEATHER,bTANNEDa,bLEEK,bSOUND,bLEAF,bWIND,bFLY,bEAT,bHEAD,bFRAGRANT,bHORSE,bBONE",
    "bTALL,bHAIR,bFIGHT,bSACRIFICIAL WINE,bCAULDRON,bGHOST,bFISH,bBIRD,bSALT,bDEER,bWHEAT,bHEMP,bYELLOW,bMILLET",
    "bBLACK,bEMBROIDERY,bFROG,bTRIPOD,bDRUM,bRAT,bNOSE,bEVEN,bTOOTH,bDRAGON,bTURTLE,bFLUTE"]),
  (0x2FF0, ["IDEOGRAPHIC DESCRIPTION CHARACTER LEFT TO RIGHT,cABOVE TO BELOW,cLEFT TO MIDDLE AND RIGHT",
    "cABOVE TO MIDDLE AND BELOW,cFULL SURROUND,cSURROUND FROM ABOVE,eBELOW,eLEFT,eUPPERa,fRIGHT,eLOWER LEFT",
    "cOVERLAID"])]

end TagRules.CharacterName
