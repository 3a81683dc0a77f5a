import Packrat.Text.Ranges

/-!
# Text — LineBreak — Class

The line breaking classes of characters, after version 15.0 of the character database.  Classes that
need more knowledge to be told apart are counted among the classes they behave like by default; the
characters of no table are alphabetic.
-/

namespace Packrat

/-- How a character behaves where lines are broken. -/
inductive BreakClass where
  | lineBreak
  | carriageReturn
  | lineFeed
  | combining
  | nextLine
  | wordJoiner
  | zeroWidthSpace
  | glue
  | space
  | joiner
  | breakBothSides
  | breakAfter
  | breakBefore
  | hyphen
  | contingent
  | closePunctuation
  | closeParenthesis
  | exclamation
  | inseparable
  | nonStarter
  | openPunctuation
  | quotation
  | infixSeparator
  | numeric
  | postfixNumeric
  | prefixNumeric
  | breakAllowing
  | alphabetic
  | emojiBase
  | emojiModifier
  | hangulLV
  | hangulLVT
  | hebrewLetter
  | ideographic
  | hangulL
  | hangulV
  | hangulT
  | regionalIndicator
  deriving DecidableEq

namespace BreakClass

def lineBreakTable : Ranges := .ofTable "
  B-C 2028-2029"

def carriageReturnTable : Ranges := .ofTable "
  D"

def lineFeedTable : Ranges := .ofTable "
  A"

def combiningTable : Ranges := .ofTable "
  0-8 E-1F 7F-84 86-9F 300-34E 350-35B 363-36F 483-489 591-5BD 5BF 5C1-5C2 5C4-5C5 5C7 610-61A
  61C 64B-65F 670 6D6-6DC 6DF-6E4 6E7-6E8 6EA-6ED 711 730-74A 7A6-7B0 7EB-7F3 7FD 816-819
  81B-823 825-827 829-82D 859-85B 898-89F 8CA-8E1 8E3-903 93A-93C 93E-94F 951-957 962-963
  981-983 9BC 9BE-9C4 9C7-9C8 9CB-9CD 9D7 9E2-9E3 9FE A01-A03 A3C A3E-A42 A47-A48 A4B-A4D A51
  A70-A71 A75 A81-A83 ABC ABE-AC5 AC7-AC9 ACB-ACD AE2-AE3 AFA-AFF B01-B03 B3C B3E-B44 B47-B48
  B4B-B4D B55-B57 B62-B63 B82 BBE-BC2 BC6-BC8 BCA-BCD BD7 C00-C04 C3C C3E-C44 C46-C48 C4A-C4D
  C55-C56 C62-C63 C81-C83 CBC CBE-CC4 CC6-CC8 CCA-CCD CD5-CD6 CE2-CE3 CF3 D00-D03 D3B-D3C
  D3E-D44 D46-D48 D4A-D4D D57 D62-D63 D81-D83 DCA DCF-DD4 DD6 DD8-DDF DF2-DF3 F18-F19 F35 F37
  F39 F3E-F3F F71-F7E F80-F84 F86-F87 F8D-F97 F99-FBC FC6 135D-135F 1712-1715 1732-1734
  1752-1753 1772-1773 180B-180D 180F 1885-1886 18A9 1920-192B 1930-193B 1A17-1A1B 1A7F
  1AB0-1ACE 1B00-1B04 1B34-1B44 1B6B-1B73 1B80-1B82 1BA1-1BAD 1BE6-1BF3 1C24-1C37 1CD0-1CD2
  1CD4-1CE8 1CED 1CF4 1CF7-1CF9 1DC0-1DCC 1DCE-1DFB 1DFD-1DFF 200C 200E-200F 202A-202E
  2066-206F 20D0-20F0 2CEF-2CF1 2D7F 2DE0-2DFF 302A-302F 3035 3099-309A A66F-A672 A674-A67D
  A69E-A69F A6F0-A6F1 A802 A806 A80B A823-A827 A82C A880-A881 A8B4-A8C5 A8E0-A8F1 A8FF
  A926-A92D A947-A953 A980-A983 A9B3-A9C0 AA29-AA36 AA43 AA4C-AA4D AAEB-AAEF AAF5-AAF6
  ABE3-ABEA ABEC-ABED FB1E FE00-FE0F FE20-FE2F FFF9-FFFB 101FD 102E0 10376-1037A 10A01-10A03
  10A05-10A06 10A0C-10A0F 10A38-10A3A 10A3F 10AE5-10AE6 10D24-10D27 10EAB-10EAC 10EFD-10EFF
  10F46-10F50 10F82-10F85 11000-11002 11038-11046 11070 11073-11074 1107F-11082 110B0-110BA
  110C2 11100-11102 11127-11134 11145-11146 11173 11180-11182 111B3-111C0 111C9-111CC
  111CE-111CF 1122C-11237 1123E 11241 112DF-112EA 11300-11303 1133B-1133C 1133E-11344
  11347-11348 1134B-1134D 11357 11362-11363 11366-1136C 11370-11374 11435-11446 1145E
  114B0-114C3 115AF-115B5 115B8-115C0 115DC-115DD 11630-11640 116AB-116B7 1182C-1183A
  11930-11935 11937-11938 1193B-1193E 11940 11942-11943 119D1-119D7 119DA-119E0 119E4
  11A01-11A0A 11A33-11A39 11A3B-11A3E 11A47 11A51-11A5B 11A8A-11A99 11C2F-11C36 11C38-11C3F
  11C92-11CA7 11CA9-11CB6 11D31-11D36 11D3A 11D3C-11D3D 11D3F-11D45 11D47 11D8A-11D8E
  11D90-11D91 11D93-11D97 11EF3-11EF6 11F00-11F01 11F03 11F34-11F3A 11F3E-11F42 13440
  13447-13455 16AF0-16AF4 16B30-16B36 16F4F 16F51-16F87 16F8F-16F92 16FF0-16FF1 1BC9D-1BC9E
  1BCA0-1BCA3 1CF00-1CF2D 1CF30-1CF46 1D165-1D169 1D16D-1D182 1D185-1D18B 1D1AA-1D1AD
  1D242-1D244 1DA00-1DA36 1DA3B-1DA6C 1DA75 1DA84 1DA9B-1DA9F 1DAA1-1DAAF 1E000-1E006
  1E008-1E018 1E01B-1E021 1E023-1E024 1E026-1E02A 1E08F 1E130-1E136 1E2AE 1E2EC-1E2EF
  1E4EC-1E4EF 1E8D0-1E8D6 1E944-1E94A E0001 E0020-E007F E0100-E01EF"

def nextLineTable : Ranges := .ofTable "
  85"

def wordJoinerTable : Ranges := .ofTable "
  2060 FEFF"

def zeroWidthSpaceTable : Ranges := .ofTable "
  200B"

def glueTable : Ranges := .ofTable "
  A0 34F 35C-362 F08 F0C F12 FD9-FDA 180E 1DCD 1DFC 2007 2011 202F 13430-13436 13439-1343B
  16FE4"

def spaceTable : Ranges := .ofTable "
  20"

def joinerTable : Ranges := .ofTable "
  200D"

def breakBothSidesTable : Ranges := .ofTable "
  2014 2E3A-2E3B"

def breakAfterTable : Ranges := .ofTable "
  9 7C AD 58A 5BE 964-965 E5A-E5B F0B F34 F7F F85 FBE-FBF FD2 104A-104B 1361 1400 1680
  16EB-16ED 1735-1736 17D4-17D5 17D8 17DA 1804-1805 1B5A-1B5B 1B5D-1B60 1B7D-1B7E 1C3B-1C3F
  1C7E-1C7F 2000-2006 2008-200A 2010 2012-2013 2027 2056 2058-205B 205D-205F 2CFA-2CFC 2CFF
  2D70 2E0E-2E15 2E17 2E19 2E2A-2E2D 2E30-2E31 2E33-2E34 2E3C-2E3E 2E40-2E41 2E43-2E4A 2E4C
  2E4E-2E4F 2E5D 3000 A4FE-A4FF A60D A60F A6F3-A6F7 A8CE-A8CF A92E-A92F A9C7-A9C9 AA5D-AA5F
  AAF0-AAF1 ABEB 10100-10102 1039F 103D0 10857 1091F 10A50-10A57 10AF0-10AF5 10B39-10B3F 10EAD
  11047-11048 110BE-110C1 11140-11143 111C5-111C6 111C8 111DD-111DF 11238-11239 1123B-1123C
  112A9 1144B-1144E 1145A-1145B 115C2-115C3 115C9-115D7 11641-11642 1173C-1173E 11944-11946
  11A41-11A44 11A9A-11A9C 11AA1-11AA2 11C41-11C45 11F43-11F44 11FFF 12470-12474 16A6E-16A6F
  16AF5 16B37-16B39 16B44 16E97-16E98 1BC9F 1DA87-1DA8A"

def breakBeforeTable : Ranges := .ofTable "
  B4 2C8 2CC 2DF C77 C84 F01-F04 F06-F07 F09-F0A FD0-FD1 FD3 1806 1FFD A874-A875 A8FC 11175
  111DB 115C1 11660-1166C 119E2 11A3F 11A45 11A9E-11AA0 11B00-11B09 11C70"

def hyphenTable : Ranges := .ofTable "
  2D"

def contingentTable : Ranges := .ofTable "
  FFFC"

def closePunctuationTable : Ranges := .ofTable "
  7D F3B F3D 169C 2046 207E 208E 2309 230B 232A 2769 276B 276D 276F 2771 2773 2775 27C6 27E7
  27E9 27EB 27ED 27EF 2984 2986 2988 298A 298C 298E 2990 2992 2994 2996 2998 29D9 29DB 29FD
  2E23 2E25 2E27 2E29 2E56 2E58 2E5A 2E5C 3001-3002 3009 300B 300D 300F 3011 3015 3017 3019
  301B 301E-301F FD3E FE11-FE12 FE18 FE36 FE38 FE3A FE3C FE3E FE40 FE42 FE44 FE48 FE50 FE52
  FE5A FE5C FE5E FF09 FF0C FF0E FF3D FF5D FF60-FF61 FF63-FF64 1325B-1325D 13282 13287 13289
  1337A-1337B 13438 1343D 1343F 145CF"

def closeParenthesisTable : Ranges := .ofTable "
  29 5D"

def exclamationTable : Ranges := .ofTable "
  21 3F 5C6 61B 61D-61F 6D4 7F9 F0D-F11 F14 1802-1803 1808-1809 1944-1945 2762-2763 2CF9 2CFE
  2E2E 2E53-2E54 A60E A876-A877 FE15-FE16 FE56-FE57 FF01 FF1F 115C4-115C5 11C71"

def inseparableTable : Ranges := .ofTable "
  2024-2026 22EF FE19 10AF6"

def nonStarterTable : Ranges := .ofTable "
  17D6 203C-203D 2047-2049 3005 301C 303B-303C 3041 3043 3045 3047 3049 3063 3083 3085 3087
  308E 3095-3096 309B-309E 30A0-30A1 30A3 30A5 30A7 30A9 30C3 30E3 30E5 30E7 30EE 30F5-30F6
  30FB-30FE 31F0-31FF A015 FE54-FE55 FF1A-FF1B FF65 FF67-FF70 FF9E-FF9F 16FE0-16FE3 1B132
  1B150-1B152 1B155 1B164-1B167 1F679-1F67B"

def openPunctuationTable : Ranges := .ofTable "
  28 5B 7B A1 BF F3A F3C 169B 201A 201E 2045 207D 208D 2308 230A 2329 2768 276A 276C 276E 2770
  2772 2774 27C5 27E6 27E8 27EA 27EC 27EE 2983 2985 2987 2989 298B 298D 298F 2991 2993 2995
  2997 29D8 29DA 29FC 2E18 2E22 2E24 2E26 2E28 2E42 2E55 2E57 2E59 2E5B 3008 300A 300C 300E
  3010 3014 3016 3018 301A 301D FD3F FE17 FE35 FE37 FE39 FE3B FE3D FE3F FE41 FE43 FE47 FE59
  FE5B FE5D FF08 FF3B FF5B FF5F FF62 13258-1325A 13286 13288 13379 13437 1343C 1343E 145CE
  1E95E-1E95F"

def quotationTable : Ranges := .ofTable "
  22 27 AB BB 2018-2019 201B-201D 201F 2039-203A 275B-2760 2E00-2E0D 2E1C-2E1D 2E20-2E21
  1F676-1F678"

def infixSeparatorTable : Ranges := .ofTable "
  2C 2E 3A-3B 37E 589 60C-60D 7F8 2044 FE10 FE13-FE14"

def numericTable : Ranges := .ofTable "
  30-39 660-669 66B-66C 6F0-6F9 7C0-7C9 966-96F 9E6-9EF A66-A6F AE6-AEF B66-B6F BE6-BEF
  C66-C6F CE6-CEF D66-D6F DE6-DEF E50-E59 ED0-ED9 F20-F29 1040-1049 1090-1099 17E0-17E9
  1810-1819 1946-194F 19D0-19D9 1A80-1A89 1A90-1A99 1B50-1B59 1BB0-1BB9 1C40-1C49 1C50-1C59
  A620-A629 A8D0-A8D9 A900-A909 A9D0-A9D9 A9F0-A9F9 AA50-AA59 ABF0-ABF9 104A0-104A9
  10D30-10D39 11066-1106F 110F0-110F9 11136-1113F 111D0-111D9 112F0-112F9 11450-11459
  114D0-114D9 11650-11659 116C0-116C9 11730-11739 118E0-118E9 11950-11959 11C50-11C59
  11D50-11D59 11DA0-11DA9 11F50-11F59 16A60-16A69 16AC0-16AC9 16B50-16B59 1D7CE-1D7FF
  1E140-1E149 1E2F0-1E2F9 1E4F0-1E4F9 1E950-1E959 1FBF0-1FBF9"

def postfixNumericTable : Ranges := .ofTable "
  25 A2 B0 609-60B 66A 9F2-9F3 9F9 D79 2030-2037 2057 20A7 20B6 20BB 20BE 20C0 2103 2109 A838
  FDFC FE6A FF05 FFE0 11FDD-11FE0 1ECAC 1ECB0"

def prefixNumericTable : Ranges := .ofTable "
  24 2B 5C A3-A5 B1 58F 7FE-7FF 9FB AF1 BF9 E3F 17DB 20A0-20A6 20A8-20B5 20B7-20BA 20BC-20BD
  20BF 20C1-20CF 2116 2212-2213 FE69 FF04 FFE1 FFE5-FFE6 1E2FF"

def breakAllowingTable : Ranges := .ofTable "
  2F"

def emojiBaseTable : Ranges := .ofTable "
  261D 26F9 270A-270D 1F385 1F3C2-1F3C4 1F3C7 1F3CA-1F3CC 1F442-1F443 1F446-1F450 1F466-1F478
  1F47C 1F481-1F483 1F485-1F487 1F48F 1F491 1F4AA 1F574-1F575 1F57A 1F590 1F595-1F596
  1F645-1F647 1F64B-1F64F 1F6A3 1F6B4-1F6B6 1F6C0 1F6CC 1F90C 1F90F 1F918-1F91F 1F926
  1F930-1F939 1F93C-1F93E 1F977 1F9B5-1F9B6 1F9B8-1F9B9 1F9BB 1F9CD-1F9CF 1F9D1-1F9DD
  1FAC3-1FAC5 1FAF0-1FAF8"

def emojiModifierTable : Ranges := .ofTable "
  1F3FB-1F3FF"

def hangulLVTable : Ranges := .ofTable "
  AC00 AC1C AC38 AC54 AC70 AC8C ACA8 ACC4 ACE0 ACFC AD18 AD34 AD50 AD6C AD88 ADA4 ADC0 ADDC
  ADF8 AE14 AE30 AE4C AE68 AE84 AEA0 AEBC AED8 AEF4 AF10 AF2C AF48 AF64 AF80 AF9C AFB8 AFD4
  AFF0 B00C B028 B044 B060 B07C B098 B0B4 B0D0 B0EC B108 B124 B140 B15C B178 B194 B1B0 B1CC
  B1E8 B204 B220 B23C B258 B274 B290 B2AC B2C8 B2E4 B300 B31C B338 B354 B370 B38C B3A8 B3C4
  B3E0 B3FC B418 B434 B450 B46C B488 B4A4 B4C0 B4DC B4F8 B514 B530 B54C B568 B584 B5A0 B5BC
  B5D8 B5F4 B610 B62C B648 B664 B680 B69C B6B8 B6D4 B6F0 B70C B728 B744 B760 B77C B798 B7B4
  B7D0 B7EC B808 B824 B840 B85C B878 B894 B8B0 B8CC B8E8 B904 B920 B93C B958 B974 B990 B9AC
  B9C8 B9E4 BA00 BA1C BA38 BA54 BA70 BA8C BAA8 BAC4 BAE0 BAFC BB18 BB34 BB50 BB6C BB88 BBA4
  BBC0 BBDC BBF8 BC14 BC30 BC4C BC68 BC84 BCA0 BCBC BCD8 BCF4 BD10 BD2C BD48 BD64 BD80 BD9C
  BDB8 BDD4 BDF0 BE0C BE28 BE44 BE60 BE7C BE98 BEB4 BED0 BEEC BF08 BF24 BF40 BF5C BF78 BF94
  BFB0 BFCC BFE8 C004 C020 C03C C058 C074 C090 C0AC C0C8 C0E4 C100 C11C C138 C154 C170 C18C
  C1A8 C1C4 C1E0 C1FC C218 C234 C250 C26C C288 C2A4 C2C0 C2DC C2F8 C314 C330 C34C C368 C384
  C3A0 C3BC C3D8 C3F4 C410 C42C C448 C464 C480 C49C C4B8 C4D4 C4F0 C50C C528 C544 C560 C57C
  C598 C5B4 C5D0 C5EC C608 C624 C640 C65C C678 C694 C6B0 C6CC C6E8 C704 C720 C73C C758 C774
  C790 C7AC C7C8 C7E4 C800 C81C C838 C854 C870 C88C C8A8 C8C4 C8E0 C8FC C918 C934 C950 C96C
  C988 C9A4 C9C0 C9DC C9F8 CA14 CA30 CA4C CA68 CA84 CAA0 CABC CAD8 CAF4 CB10 CB2C CB48 CB64
  CB80 CB9C CBB8 CBD4 CBF0 CC0C CC28 CC44 CC60 CC7C CC98 CCB4 CCD0 CCEC CD08 CD24 CD40 CD5C
  CD78 CD94 CDB0 CDCC CDE8 CE04 CE20 CE3C CE58 CE74 CE90 CEAC CEC8 CEE4 CF00 CF1C CF38 CF54
  CF70 CF8C CFA8 CFC4 CFE0 CFFC D018 D034 D050 D06C D088 D0A4 D0C0 D0DC D0F8 D114 D130 D14C
  D168 D184 D1A0 D1BC D1D8 D1F4 D210 D22C D248 D264 D280 D29C D2B8 D2D4 D2F0 D30C D328 D344
  D360 D37C D398 D3B4 D3D0 D3EC D408 D424 D440 D45C D478 D494 D4B0 D4CC D4E8 D504 D520 D53C
  D558 D574 D590 D5AC D5C8 D5E4 D600 D61C D638 D654 D670 D68C D6A8 D6C4 D6E0 D6FC D718 D734
  D750 D76C D788"

def hangulLVTTable : Ranges := .ofTable "
  AC01-AC1B AC1D-AC37 AC39-AC53 AC55-AC6F AC71-AC8B AC8D-ACA7 ACA9-ACC3 ACC5-ACDF ACE1-ACFB
  ACFD-AD17 AD19-AD33 AD35-AD4F AD51-AD6B AD6D-AD87 AD89-ADA3 ADA5-ADBF ADC1-ADDB ADDD-ADF7
  ADF9-AE13 AE15-AE2F AE31-AE4B AE4D-AE67 AE69-AE83 AE85-AE9F AEA1-AEBB AEBD-AED7 AED9-AEF3
  AEF5-AF0F AF11-AF2B AF2D-AF47 AF49-AF63 AF65-AF7F AF81-AF9B AF9D-AFB7 AFB9-AFD3 AFD5-AFEF
  AFF1-B00B B00D-B027 B029-B043 B045-B05F B061-B07B B07D-B097 B099-B0B3 B0B5-B0CF B0D1-B0EB
  B0ED-B107 B109-B123 B125-B13F B141-B15B B15D-B177 B179-B193 B195-B1AF B1B1-B1CB B1CD-B1E7
  B1E9-B203 B205-B21F B221-B23B B23D-B257 B259-B273 B275-B28F B291-B2AB B2AD-B2C7 B2C9-B2E3
  B2E5-B2FF B301-B31B B31D-B337 B339-B353 B355-B36F B371-B38B B38D-B3A7 B3A9-B3C3 B3C5-B3DF
  B3E1-B3FB B3FD-B417 B419-B433 B435-B44F B451-B46B B46D-B487 B489-B4A3 B4A5-B4BF B4C1-B4DB
  B4DD-B4F7 B4F9-B513 B515-B52F B531-B54B B54D-B567 B569-B583 B585-B59F B5A1-B5BB B5BD-B5D7
  B5D9-B5F3 B5F5-B60F B611-B62B B62D-B647 B649-B663 B665-B67F B681-B69B B69D-B6B7 B6B9-B6D3
  B6D5-B6EF B6F1-B70B B70D-B727 B729-B743 B745-B75F B761-B77B B77D-B797 B799-B7B3 B7B5-B7CF
  B7D1-B7EB B7ED-B807 B809-B823 B825-B83F B841-B85B B85D-B877 B879-B893 B895-B8AF B8B1-B8CB
  B8CD-B8E7 B8E9-B903 B905-B91F B921-B93B B93D-B957 B959-B973 B975-B98F B991-B9AB B9AD-B9C7
  B9C9-B9E3 B9E5-B9FF BA01-BA1B BA1D-BA37 BA39-BA53 BA55-BA6F BA71-BA8B BA8D-BAA7 BAA9-BAC3
  BAC5-BADF BAE1-BAFB BAFD-BB17 BB19-BB33 BB35-BB4F BB51-BB6B BB6D-BB87 BB89-BBA3 BBA5-BBBF
  BBC1-BBDB BBDD-BBF7 BBF9-BC13 BC15-BC2F BC31-BC4B BC4D-BC67 BC69-BC83 BC85-BC9F BCA1-BCBB
  BCBD-BCD7 BCD9-BCF3 BCF5-BD0F BD11-BD2B BD2D-BD47 BD49-BD63 BD65-BD7F BD81-BD9B BD9D-BDB7
  BDB9-BDD3 BDD5-BDEF BDF1-BE0B BE0D-BE27 BE29-BE43 BE45-BE5F BE61-BE7B BE7D-BE97 BE99-BEB3
  BEB5-BECF BED1-BEEB BEED-BF07 BF09-BF23 BF25-BF3F BF41-BF5B BF5D-BF77 BF79-BF93 BF95-BFAF
  BFB1-BFCB BFCD-BFE7 BFE9-C003 C005-C01F C021-C03B C03D-C057 C059-C073 C075-C08F C091-C0AB
  C0AD-C0C7 C0C9-C0E3 C0E5-C0FF C101-C11B C11D-C137 C139-C153 C155-C16F C171-C18B C18D-C1A7
  C1A9-C1C3 C1C5-C1DF C1E1-C1FB C1FD-C217 C219-C233 C235-C24F C251-C26B C26D-C287 C289-C2A3
  C2A5-C2BF C2C1-C2DB C2DD-C2F7 C2F9-C313 C315-C32F C331-C34B C34D-C367 C369-C383 C385-C39F
  C3A1-C3BB C3BD-C3D7 C3D9-C3F3 C3F5-C40F C411-C42B C42D-C447 C449-C463 C465-C47F C481-C49B
  C49D-C4B7 C4B9-C4D3 C4D5-C4EF C4F1-C50B C50D-C527 C529-C543 C545-C55F C561-C57B C57D-C597
  C599-C5B3 C5B5-C5CF C5D1-C5EB C5ED-C607 C609-C623 C625-C63F C641-C65B C65D-C677 C679-C693
  C695-C6AF C6B1-C6CB C6CD-C6E7 C6E9-C703 C705-C71F C721-C73B C73D-C757 C759-C773 C775-C78F
  C791-C7AB C7AD-C7C7 C7C9-C7E3 C7E5-C7FF C801-C81B C81D-C837 C839-C853 C855-C86F C871-C88B
  C88D-C8A7 C8A9-C8C3 C8C5-C8DF C8E1-C8FB C8FD-C917 C919-C933 C935-C94F C951-C96B C96D-C987
  C989-C9A3 C9A5-C9BF C9C1-C9DB C9DD-C9F7 C9F9-CA13 CA15-CA2F CA31-CA4B CA4D-CA67 CA69-CA83
  CA85-CA9F CAA1-CABB CABD-CAD7 CAD9-CAF3 CAF5-CB0F CB11-CB2B CB2D-CB47 CB49-CB63 CB65-CB7F
  CB81-CB9B CB9D-CBB7 CBB9-CBD3 CBD5-CBEF CBF1-CC0B CC0D-CC27 CC29-CC43 CC45-CC5F CC61-CC7B
  CC7D-CC97 CC99-CCB3 CCB5-CCCF CCD1-CCEB CCED-CD07 CD09-CD23 CD25-CD3F CD41-CD5B CD5D-CD77
  CD79-CD93 CD95-CDAF CDB1-CDCB CDCD-CDE7 CDE9-CE03 CE05-CE1F CE21-CE3B CE3D-CE57 CE59-CE73
  CE75-CE8F CE91-CEAB CEAD-CEC7 CEC9-CEE3 CEE5-CEFF CF01-CF1B CF1D-CF37 CF39-CF53 CF55-CF6F
  CF71-CF8B CF8D-CFA7 CFA9-CFC3 CFC5-CFDF CFE1-CFFB CFFD-D017 D019-D033 D035-D04F D051-D06B
  D06D-D087 D089-D0A3 D0A5-D0BF D0C1-D0DB D0DD-D0F7 D0F9-D113 D115-D12F D131-D14B D14D-D167
  D169-D183 D185-D19F D1A1-D1BB D1BD-D1D7 D1D9-D1F3 D1F5-D20F D211-D22B D22D-D247 D249-D263
  D265-D27F D281-D29B D29D-D2B7 D2B9-D2D3 D2D5-D2EF D2F1-D30B D30D-D327 D329-D343 D345-D35F
  D361-D37B D37D-D397 D399-D3B3 D3B5-D3CF D3D1-D3EB D3ED-D407 D409-D423 D425-D43F D441-D45B
  D45D-D477 D479-D493 D495-D4AF D4B1-D4CB D4CD-D4E7 D4E9-D503 D505-D51F D521-D53B D53D-D557
  D559-D573 D575-D58F D591-D5AB D5AD-D5C7 D5C9-D5E3 D5E5-D5FF D601-D61B D61D-D637 D639-D653
  D655-D66F D671-D68B D68D-D6A7 D6A9-D6C3 D6C5-D6DF D6E1-D6FB D6FD-D717 D719-D733 D735-D74F
  D751-D76B D76D-D787 D789-D7A3"

def hebrewLetterTable : Ranges := .ofTable "
  5D0-5EA 5EF-5F2 FB1D FB1F-FB28 FB2A-FB36 FB38-FB3C FB3E FB40-FB41 FB43-FB44 FB46-FB4F"

def ideographicTable : Ranges := .ofTable "
  231A-231B 23F0-23F3 2600-2603 2614-2615 2618 261A-261C 261E-261F 2639-263B 2668 267F
  26BD-26C8 26CD 26CF-26D1 26D3-26D4 26D8-26D9 26DC 26DF-26E1 26EA 26F1-26F5 26F7-26F8 26FA
  26FD-2704 2708-2709 2764 2E80-2E99 2E9B-2EF3 2F00-2FD5 2FF0-2FFB 3003-3004 3006-3007
  3012-3013 3020-3029 3030-3034 3036-303A 303D-303F 3042 3044 3046 3048 304A-3062 3064-3082
  3084 3086 3088-308D 308F-3094 309F 30A2 30A4 30A6 30A8 30AA-30C2 30C4-30E2 30E4 30E6
  30E8-30ED 30EF-30F4 30F7-30FA 30FF 3105-312F 3131-318E 3190-31E3 3200-321E 3220-3247
  3250-4DBF 4E00-A014 A016-A48C A490-A4C6 F900-FAFF FE30-FE34 FE45-FE46 FE49-FE4F FE51 FE58
  FE5F-FE66 FE68 FE6B FF02-FF03 FF06-FF07 FF0A-FF0B FF0D FF0F-FF19 FF1C-FF1E FF20-FF3A FF3C
  FF3E-FF5A FF5C FF5E FF66 FF71-FF9D FFA0-FFBE FFC2-FFC7 FFCA-FFCF FFD2-FFD7 FFDA-FFDC
  FFE2-FFE4 11F45-11F4F 17000-187F7 18800-18AFF 18D00-18D08 1B000-1B122 1B170-1B2FB
  1F000-1F0FF 1F10D-1F10F 1F16D-1F16F 1F1AD-1F1E5 1F200-1F384 1F386-1F39B 1F39E-1F3B4
  1F3B7-1F3BB 1F3BD-1F3C1 1F3C5-1F3C6 1F3C8-1F3C9 1F3CD-1F3FA 1F400-1F441 1F444-1F445
  1F451-1F465 1F479-1F47B 1F47D-1F480 1F484 1F488-1F48E 1F490 1F492-1F49F 1F4A1 1F4A3
  1F4A5-1F4A9 1F4AB-1F4AE 1F4B0 1F4B3-1F4FF 1F507-1F516 1F525-1F531 1F54A-1F573 1F576-1F579
  1F57B-1F58F 1F591-1F594 1F597-1F5D3 1F5DC-1F5F3 1F5FA-1F644 1F648-1F64A 1F680-1F6A2
  1F6A4-1F6B3 1F6B7-1F6BF 1F6C1-1F6CB 1F6CD-1F6FF 1F774-1F77F 1F7D5-1F7FF 1F80C-1F80F
  1F848-1F84F 1F85A-1F85F 1F888-1F88F 1F8AE-1F8FF 1F90D-1F90E 1F910-1F917 1F920-1F925
  1F927-1F92F 1F93A-1F93B 1F93F-1F976 1F978-1F9B4 1F9B7 1F9BA 1F9BC-1F9CC 1F9D0 1F9DE-1F9FF
  1FA54-1FAC2 1FAC6-1FAEF 1FAF9-1FAFF 1FC00-1FFFD 20000-2FFFD 30000-3FFFD"

def hangulLTable : Ranges := .ofTable "
  1100-115F A960-A97C"

def hangulVTable : Ranges := .ofTable "
  1160-11A7 D7B0-D7C6"

def hangulTTable : Ranges := .ofTable "
  11A8-11FF D7CB-D7FB"

def regionalIndicatorTable : Ranges := .ofTable "
  1F1E6-1F1FF"

/-- All classes that have a table, with their characters. -/
def tables : List (BreakClass × Ranges) :=
  [(.lineBreak, lineBreakTable), (.carriageReturn, carriageReturnTable), (.lineFeed,
   lineFeedTable), (.combining, combiningTable), (.nextLine, nextLineTable), (.wordJoiner,
   wordJoinerTable), (.zeroWidthSpace, zeroWidthSpaceTable), (.glue, glueTable), (.space,
   spaceTable), (.joiner, joinerTable), (.breakBothSides, breakBothSidesTable), (.breakAfter,
   breakAfterTable), (.breakBefore, breakBeforeTable), (.hyphen, hyphenTable), (.contingent,
   contingentTable), (.closePunctuation, closePunctuationTable), (.closeParenthesis,
   closeParenthesisTable), (.exclamation, exclamationTable), (.inseparable, inseparableTable),
   (.nonStarter, nonStarterTable), (.openPunctuation, openPunctuationTable), (.quotation,
   quotationTable), (.infixSeparator, infixSeparatorTable), (.numeric, numericTable),
   (.postfixNumeric, postfixNumericTable), (.prefixNumeric, prefixNumericTable),
   (.breakAllowing, breakAllowingTable), (.emojiBase, emojiBaseTable), (.emojiModifier,
   emojiModifierTable), (.hangulLV, hangulLVTable), (.hangulLVT, hangulLVTTable),
   (.hebrewLetter, hebrewLetterTable), (.ideographic, ideographicTable), (.hangulL,
   hangulLTable), (.hangulV, hangulVTable), (.hangulT, hangulTTable), (.regionalIndicator,
   regionalIndicatorTable)]

def ofChar (c : Char) : BreakClass :=
  ((tables.find? fun e => e.2.contains c).map (·.1)).getD .alphabetic

end BreakClass

end Packrat
