/-!
# Further names of characters

Control characters have no names of their own, and some characters are known by an abbreviation or
by a corrected name. Each name starts with its code point, and with a small letter, which tells how
many words it shares with the name before it.
-/

namespace BrickLint.Text

/-- The further names of characters. -/
def furtherNames : List String :=
  [
    "@0aNUL@0aNULL@1aSOH@1aSTART OF HEADING@2cTEXT@2aSTX@3aEND OF TEXT@3aETX@4aEND OF TRANSMISSION",
    "@4aEOT@5aENQ@5aENQUIRY@6aACK@6aACKNOWLEDGE@7aALERT@7aBEL@8aBACKSPACE@8aBS",
    "@9aCHARACTER TABULATION@9aHORIZONTAL TABULATION@9aHT@9aTAB@AaEND OF LINE@AaEOL@AaLF",
    "@AaLINE FEED@AaNEW LINE@AaNL@BaLINE TABULATION@BaVERTICAL TABULATION@BaVT@CaFF@CaFORM FEED",
    "@DaCARRIAGE RETURN@DaCR@EaLOCKING-SHIFT ONE@EaSHIFT OUT@EaSO@FaLOCKING-SHIFT ZERO@FaSHIFT IN",
    "@FaSI@10aDATA LINK ESCAPE@10aDLE@11aDC1@11aDEVICE CONTROL ONE@12aDC2@12aDEVICE CONTROL TWO",
    "@13aDC3@13aDEVICE CONTROL THREE@14aDC4@14aDEVICE CONTROL FOUR@15aNAK@15aNEGATIVE ACKNOWLEDGE",
    "@16aSYN@16aSYNCHRONOUS IDLE@17aEND OF TRANSMISSION BLOCK@17aETB@18aCAN@18aCANCEL",
    "@19aEND OF MEDIUM@19aEOM@1AaSUB@1AaSUBSTITUTE@1BaESC@1BaESCAPE@1CaFILE SEPARATOR@1CaFS",
    "@1CaINFORMATION SEPARATOR FOUR@1DaGROUP SEPARATOR@1DaGS@1DaINFORMATION SEPARATOR THREE@1EcTWO",
    "@1EaRECORD SEPARATOR@1EaRS@1FaINFORMATION SEPARATOR ONE@1FaUNIT SEPARATOR@1FaUS@20aSP@7FaDEL",
    "@7FaDELETE@80aPAD@80aPADDING CHARACTER@81aHIGH OCTET PRESET@81aHOP@82aBPH",
    "@82aBREAK PERMITTED HERE@83aNBH@83aNO BREAK HERE@84aIND@84aINDEX@85aNEL@85aNEXT LINE@86aSSA",
    "@86aSTART OF SELECTED AREA@87aEND OF SELECTED AREA@87aESA@88aCHARACTER TABULATION SET",
    "@88aHORIZONTAL TABULATION SET@88aHTS@89aCHARACTER TABULATION WITH JUSTIFICATION",
    "@89aHORIZONTAL TABULATION WITH JUSTIFICATION@89aHTJ@8AaLINE TABULATION SET",
    "@8AaVERTICAL TABULATION SET@8AaVTS@8BaPARTIAL LINE DOWN@8BcFORWARD@8BaPLD",
    "@8CaPARTIAL LINE BACKWARD@8CcUP@8CaPLU@8DaREVERSE INDEX@8DbLINE FEED@8DaRI",
    "@8EaSINGLE SHIFT TWO@8EaSINGLE-SHIFT-2@8EaSS2@8FaSINGLE SHIFT THREE@8FaSINGLE-SHIFT-3@8FaSS3",
    "@90aDCS@90aDEVICE CONTROL STRING@91aPRIVATE USE ONE@91bUSE-1@91aPU1@92aPRIVATE USE TWO",
    "@92bUSE-2@92aPU2@93aSET TRANSMIT STATE@93aSTS@94aCANCEL CHARACTER@94aCCH@95aMESSAGE WAITING",
    "@95aMW@96aSPA@96aSTART OF GUARDED AREA@96cPROTECTED AREA@97aEND OF GUARDED AREA",
    "@97cPROTECTED AREA@97aEPA@98aSOS@98aSTART OF STRING@99aSGC",
    "@99aSINGLE GRAPHIC CHARACTER INTRODUCER@9AaSCI@9AaSINGLE CHARACTER INTRODUCER",
    "@9BaCONTROL SEQUENCE INTRODUCER@9BaCSI@9CaST@9CaSTRING TERMINATOR@9DaOPERATING SYSTEM COMMAND",
    "@9DaOSC@9EaPM@9EaPRIVACY MESSAGE@9FaAPC@9FaAPPLICATION PROGRAM COMMAND@A0aNBSP@ADaSHY",
    "@1A2aLATIN CAPITAL LETTER GHA@1A3bSMALL LETTER GHA@34FaCGJ@61CaALM",
    "@709aSYRIAC SUBLINEAR COLON SKEWED LEFT@CDEaKANNADA LETTER LLLA@E9DaLAO LETTER FO FON@E9FdFAY",
    "@EA3cRO@EA5cLO@FD0aTIBETAN MARK BKA- SHOG GI MGO RGYAN@11ECaHANGUL JONGSEONG YESIEUNG-KIYEOK",
    "@11EDcYESIEUNG-SSANGKIYEOK@11EEcSSANGYESIEUNG@11EFcYESIEUNG-KHIEUKH@180BaFVS1@180CaFVS2",
    "@180DaFVS3@180EaMVS@180FaFVS4@200BaZWSP@200CaZWNJ@200DaZWJ@200EaLRM@200FaRLM@202AaLRE",
    "@202BaRLE@202CaPDF@202DaLRO@202EaRLO@202FaNNBSP@205FaMMSP@2060aWJ@2066aLRI@2067aRLI@2068aFSI",
    "@2069aPDI@2118aWEIERSTRASS ELLIPTIC FUNCTION@2448aMICR ON US SYMBOL@2449bDASH SYMBOL",
    "@2B7AaLEFTWARDS TRIANGLE-HEADED ARROW WITH DOUBLE VERTICAL STROKE",
    "@2B7CaRIGHTWARDS TRIANGLE-HEADED ARROW WITH DOUBLE VERTICAL STROKE",
    "@A015aYI SYLLABLE ITERATION MARK@AA6EaMYANMAR LETTER KHAMTI LLA@FE00aVS1@FE01aVS2@FE02aVS3",
    "@FE03aVS4@FE04aVS5@FE05aVS6@FE06aVS7@FE07aVS8@FE08aVS9@FE09aVS10@FE0AaVS11@FE0BaVS12",
    "@FE0CaVS13@FE0DaVS14@FE0EaVS15@FE0FaVS16",
    "@FE18aPRESENTATION FORM FOR VERTICAL RIGHT WHITE LENTICULAR BRACKET@FEFFaBOM",
    "@FEFFaBYTE ORDER MARK@FEFFaZWNBSP@122D4aCUNEIFORM SIGN NU11 TENU@122D5dOVER NU11 BUR OVER BUR",
    "@16E56aMEDEFAIDRIN CAPITAL LETTER H@16E57dNG@16E76bSMALL LETTER H@16E77dNG",
    "@1B001aHENTAIGANA LETTER E-1@1D0C5aBYZANTINE MUSICAL SYMBOL FTHORA SKLIRON CHROMA VASIS",
    "@E0100aVS17@E0101aVS18@E0102aVS19@E0103aVS20@E0104aVS21@E0105aVS22@E0106aVS23@E0107aVS24",
    "@E0108aVS25@E0109aVS26@E010AaVS27@E010BaVS28@E010CaVS29@E010DaVS30@E010EaVS31@E010FaVS32",
    "@E0110aVS33@E0111aVS34@E0112aVS35@E0113aVS36@E0114aVS37@E0115aVS38@E0116aVS39@E0117aVS40",
    "@E0118aVS41@E0119aVS42@E011AaVS43@E011BaVS44@E011CaVS45@E011DaVS46@E011EaVS47@E011FaVS48",
    "@E0120aVS49@E0121aVS50@E0122aVS51@E0123aVS52@E0124aVS53@E0125aVS54@E0126aVS55@E0127aVS56",
    "@E0128aVS57@E0129aVS58@E012AaVS59@E012BaVS60@E012CaVS61@E012DaVS62@E012EaVS63@E012FaVS64",
    "@E0130aVS65@E0131aVS66@E0132aVS67@E0133aVS68@E0134aVS69@E0135aVS70@E0136aVS71@E0137aVS72",
    "@E0138aVS73@E0139aVS74@E013AaVS75@E013BaVS76@E013CaVS77@E013DaVS78@E013EaVS79@E013FaVS80",
    "@E0140aVS81@E0141aVS82@E0142aVS83@E0143aVS84@E0144aVS85@E0145aVS86@E0146aVS87@E0147aVS88",
    "@E0148aVS89@E0149aVS90@E014AaVS91@E014BaVS92@E014CaVS93@E014DaVS94@E014EaVS95@E014FaVS96",
    "@E0150aVS97@E0151aVS98@E0152aVS99@E0153aVS100@E0154aVS101@E0155aVS102@E0156aVS103@E0157aVS104",
    "@E0158aVS105@E0159aVS106@E015AaVS107@E015BaVS108@E015CaVS109@E015DaVS110@E015EaVS111",
    "@E015FaVS112@E0160aVS113@E0161aVS114@E0162aVS115@E0163aVS116@E0164aVS117@E0165aVS118",
    "@E0166aVS119@E0167aVS120@E0168aVS121@E0169aVS122@E016AaVS123@E016BaVS124@E016CaVS125",
    "@E016DaVS126@E016EaVS127@E016FaVS128@E0170aVS129@E0171aVS130@E0172aVS131@E0173aVS132",
    "@E0174aVS133@E0175aVS134@E0176aVS135@E0177aVS136@E0178aVS137@E0179aVS138@E017AaVS139",
    "@E017BaVS140@E017CaVS141@E017DaVS142@E017EaVS143@E017FaVS144@E0180aVS145@E0181aVS146",
    "@E0182aVS147@E0183aVS148@E0184aVS149@E0185aVS150@E0186aVS151@E0187aVS152@E0188aVS153",
    "@E0189aVS154@E018AaVS155@E018BaVS156@E018CaVS157@E018DaVS158@E018EaVS159@E018FaVS160",
    "@E0190aVS161@E0191aVS162@E0192aVS163@E0193aVS164@E0194aVS165@E0195aVS166@E0196aVS167",
    "@E0197aVS168@E0198aVS169@E0199aVS170@E019AaVS171@E019BaVS172@E019CaVS173@E019DaVS174",
    "@E019EaVS175@E019FaVS176@E01A0aVS177@E01A1aVS178@E01A2aVS179@E01A3aVS180@E01A4aVS181",
    "@E01A5aVS182@E01A6aVS183@E01A7aVS184@E01A8aVS185@E01A9aVS186@E01AAaVS187@E01ABaVS188",
    "@E01ACaVS189@E01ADaVS190@E01AEaVS191@E01AFaVS192@E01B0aVS193@E01B1aVS194@E01B2aVS195",
    "@E01B3aVS196@E01B4aVS197@E01B5aVS198@E01B6aVS199@E01B7aVS200@E01B8aVS201@E01B9aVS202",
    "@E01BAaVS203@E01BBaVS204@E01BCaVS205@E01BDaVS206@E01BEaVS207@E01BFaVS208@E01C0aVS209",
    "@E01C1aVS210@E01C2aVS211@E01C3aVS212@E01C4aVS213@E01C5aVS214@E01C6aVS215@E01C7aVS216",
    "@E01C8aVS217@E01C9aVS218@E01CAaVS219@E01CBaVS220@E01CCaVS221@E01CDaVS222@E01CEaVS223",
    "@E01CFaVS224@E01D0aVS225@E01D1aVS226@E01D2aVS227@E01D3aVS228@E01D4aVS229@E01D5aVS230",
    "@E01D6aVS231@E01D7aVS232@E01D8aVS233@E01D9aVS234@E01DAaVS235@E01DBaVS236@E01DCaVS237",
    "@E01DDaVS238@E01DEaVS239@E01DFaVS240@E01E0aVS241@E01E1aVS242@E01E2aVS243@E01E3aVS244",
    "@E01E4aVS245@E01E5aVS246@E01E6aVS247@E01E7aVS248@E01E8aVS249@E01E9aVS250@E01EAaVS251",
    "@E01EBaVS252@E01ECaVS253@E01EDaVS254@E01EEaVS255@E01EFaVS256"
  ]

end BrickLint.Text
