import MmsHttp.Text.CodeTable

namespace MmsHttp.Idna

open Text

/-- Characters that may stand in a label wherever they like. -/
def alwaysValid : CodeTable := .ofLines [
  "2D 30-39 61-7A DF-F6 F8-FF 101 103 105 107 109 10B 10D 10F 111 113 115 117 119 11B 11D 11F",
  "121 123 125 127 129 12B 12D 12F 131 135 137-138 13A 13C 13E 142 144 146 148 14B 14D 14F 151",
  "153 155 157 159 15B 15D 15F 161 163 165 167 169 16B 16D 16F 171 173 175 177 17A 17C 17E 180",
  "183 185 188 18C-18D 192 195 199-19B 19E 1A1 1A3 1A5 1A8 1AA-1AB 1AD 1B0 1B4 1B6 1B9-1BB",
  "1BD-1C3 1CE 1D0 1D2 1D4 1D6 1D8 1DA 1DC-1DD 1DF 1E1 1E3 1E5 1E7 1E9 1EB 1ED 1EF-1F0 1F5 1F9",
  "1FB 1FD 1FF 201 203 205 207 209 20B 20D 20F 211 213 215 217 219 21B 21D 21F 221 223 225 227",
  "229 22B 22D 22F 231 233-239 23C 23F-240 242 247 249 24B 24D 24F-2AF 2B9-2C1 2C6-2D1 2EC 2EE",
  "300-33F 342 346-34E 350-36F 371 373 377 37B-37D 390 3AC-3CE 3D7 3D9 3DB 3DD 3DF 3E1 3E3 3E5",
  "3E7 3E9 3EB 3ED 3EF 3F3 3F8 3FB-3FC 430-45F 461 463 465 467 469 46B 46D 46F 471 473 475 477",
  "479 47B 47D 47F 481 483-487 48B 48D 48F 491 493 495 497 499 49B 49D 49F 4A1 4A3 4A5 4A7 4A9",
  "4AB 4AD 4AF 4B1 4B3 4B5 4B7 4B9 4BB 4BD 4BF 4C2 4C4 4C6 4C8 4CA 4CC 4CE-4CF 4D1 4D3 4D5 4D7",
  "4D9 4DB 4DD 4DF 4E1 4E3 4E5 4E7 4E9 4EB 4ED 4EF 4F1 4F3 4F5 4F7 4F9 4FB 4FD 4FF 501 503 505",
  "507 509 50B 50D 50F 511 513 515 517 519 51B 51D 51F 521 523 525 527 529 52B 52D 52F 559",
  "560-586 588 591-5BD 5BF 5C1-5C2 5C4-5C5 5C7 5D0-5EA 5EF-5F2 610-61A 620-63F 641-65F 66E-674",
  "679-6D3 6D5-6DC 6DF-6E8 6EA-6EF 6FA-6FF 710-74A 74D-7B1 7C0-7F5 7FD 800-82D 840-85B 860-86A",
  "870-887 889-88F 897-8E1 8E3-957 960-963 966-96F 971-983 985-98C 98F-990 993-9A8 9AA-9B0 9B2",
  "9B6-9B9 9BC-9C4 9C7-9C8 9CB-9CE 9D7 9E0-9E3 9E6-9F1 9FC 9FE A01-A03 A05-A0A A0F-A10 A13-A28",
  "A2A-A30 A32 A35 A38-A39 A3C A3E-A42 A47-A48 A4B-A4D A51 A5C A66-A75 A81-A83 A85-A8D A8F-A91",
  "A93-AA8 AAA-AB0 AB2-AB3 AB5-AB9 ABC-AC5 AC7-AC9 ACB-ACD AD0 AE0-AE3 AE6-AEF AF9-AFF B01-B03",
  "B05-B0C B0F-B10 B13-B28 B2A-B30 B32-B33 B35-B39 B3C-B44 B47-B48 B4B-B4D B55-B57 B5F-B63",
  "B66-B6F B71 B82-B83 B85-B8A B8E-B90 B92-B95 B99-B9A B9C B9E-B9F BA3-BA4 BA8-BAA BAE-BB9",
  "BBE-BC2 BC6-BC8 BCA-BCD BD0 BD7 BE6-BEF C00-C0C C0E-C10 C12-C28 C2A-C39 C3C-C44 C46-C48",
  "C4A-C4D C55-C56 C58-C5A C5C-C5D C60-C63 C66-C6F C80-C83 C85-C8C C8E-C90 C92-CA8 CAA-CB3",
  "CB5-CB9 CBC-CC4 CC6-CC8 CCA-CCD CD5-CD6 CDC-CDE CE0-CE3 CE6-CEF CF1-CF3 D00-D0C D0E-D10",
  "D12-D44 D46-D48 D4A-D4E D54-D57 D5F-D63 D66-D6F D7A-D7F D81-D83 D85-D96 D9A-DB1 DB3-DBB DBD",
  "DC0-DC6 DCA DCF-DD4 DD6 DD8-DDF DE6-DEF DF2-DF3 E01-E32 E34-E3A E40-E4E E50-E59 E81-E82 E84",
  "E86-E8A E8C-EA3 EA5 EA7-EB2 EB4-EBD EC0-EC4 EC6 EC8-ECE ED0-ED9 EDE-EDF F00 F0B F18-F19",
  "F20-F29 F35 F37 F39 F3E-F42 F44-F47 F49-F4C F4E-F51 F53-F56 F58-F5B F5D-F68 F6A-F6C F71-F72",
  "F74 F7A-F80 F82-F84 F86-F92 F94-F97 F99-F9C F9E-FA1 FA3-FA6 FA8-FAB FAD-FB8 FBA-FBC FC6",
  "1000-1049 1050-109D 10D0-10FA 10FD-10FF 1200-1248 124A-124D 1250-1256 1258 125A-125D",
  "1260-1288 128A-128D 1290-12B0 12B2-12B5 12B8-12BE 12C0 12C2-12C5 12C8-12D6 12D8-1310",
  "1312-1315 1318-135A 135D-135F 1380-138F 13A0-13F5 1401-166C 166F-167F 1681-169A 16A0-16EA",
  "16F1-16F8 1700-1715 171F-1734 1740-1753 1760-176C 176E-1770 1772-1773 1780-17B3 17B6-17D3",
  "17D7 17DC-17DD 17E0-17E9 1810-1819 1820-1878 1880-18AA 18B0-18F5 1900-191E 1920-192B",
  "1930-193B 1946-196D 1970-1974 1980-19AB 19B0-19C9 19D0-19D9 1A00-1A1B 1A20-1A5E 1A60-1A7C",
  "1A7F-1A89 1A90-1A99 1AA7 1AB0-1ABD 1ABF-1ADD 1AE0-1AEB 1B00-1B4C 1B50-1B59 1B6B-1B73",
  "1B80-1BF3 1C00-1C37 1C40-1C49 1C4D-1C7D 1C8A 1CD0-1CD2 1CD4-1CFA 1D00-1D2B 1D2F 1D3B 1D4E",
  "1D6B-1D77 1D79-1D9A 1DC0-1DFF 1E01 1E03 1E05 1E07 1E09 1E0B 1E0D 1E0F 1E11 1E13 1E15 1E17",
  "1E19 1E1B 1E1D 1E1F 1E21 1E23 1E25 1E27 1E29 1E2B 1E2D 1E2F 1E31 1E33 1E35 1E37 1E39 1E3B",
  "1E3D 1E3F 1E41 1E43 1E45 1E47 1E49 1E4B 1E4D 1E4F 1E51 1E53 1E55 1E57 1E59 1E5B 1E5D 1E5F",
  "1E61 1E63 1E65 1E67 1E69 1E6B 1E6D 1E6F 1E71 1E73 1E75 1E77 1E79 1E7B 1E7D 1E7F 1E81 1E83",
  "1E85 1E87 1E89 1E8B 1E8D 1E8F 1E91 1E93 1E95-1E99 1E9C-1E9D 1E9F 1EA1 1EA3 1EA5 1EA7 1EA9",
  "1EAB 1EAD 1EAF 1EB1 1EB3 1EB5 1EB7 1EB9 1EBB 1EBD 1EBF 1EC1 1EC3 1EC5 1EC7 1EC9 1ECB 1ECD",
  "1ECF 1ED1 1ED3 1ED5 1ED7 1ED9 1EDB 1EDD 1EDF 1EE1 1EE3 1EE5 1EE7 1EE9 1EEB 1EED 1EEF 1EF1",
  "1EF3 1EF5 1EF7 1EF9 1EFB 1EFD 1EFF-1F07 1F10-1F15 1F20-1F27 1F30-1F37 1F40-1F45 1F50-1F57",
  "1F60-1F67 1F70 1F72 1F74 1F76 1F78 1F7A 1F7C 1FB0-1FB1 1FB6 1FC6 1FD0-1FD2 1FD6-1FD7",
  "1FE0-1FE2 1FE4-1FE7 1FF6 214E 2184 2C30-2C5F 2C61 2C65-2C66 2C68 2C6A 2C6C 2C71 2C73-2C74",
  "2C76-2C7B 2C81 2C83 2C85 2C87 2C89 2C8B 2C8D 2C8F 2C91 2C93 2C95 2C97 2C99 2C9B 2C9D 2C9F",
  "2CA1 2CA3 2CA5 2CA7 2CA9 2CAB 2CAD 2CAF 2CB1 2CB3 2CB5 2CB7 2CB9 2CBB 2CBD 2CBF 2CC1 2CC3",
  "2CC5 2CC7 2CC9 2CCB 2CCD 2CCF 2CD1 2CD3 2CD5 2CD7 2CD9 2CDB 2CDD 2CDF 2CE1 2CE3-2CE4 2CEC",
  "2CEE-2CF1 2CF3 2D00-2D25 2D27 2D2D 2D30-2D67 2D7F-2D96 2DA0-2DA6 2DA8-2DAE 2DB0-2DB6",
  "2DB8-2DBE 2DC0-2DC6 2DC8-2DCE 2DD0-2DD6 2DD8-2DDE 2DE0-2DFF 2E2F 3005-3007 302A-302D 303C",
  "3041-3096 3099-309A 309D-309E 30A1-30FA 30FC-30FE 3105-312F 31A0-31BF 31F0-31FF 3400-4DBF",
  "4E00-A48C A4D0-A4FD A500-A60C A610-A62B A641 A643 A645 A647 A649 A64B A64D A64F A651 A653",
  "A655 A657 A659 A65B A65D A65F A661 A663 A665 A667 A669 A66B A66D-A66F A674-A67D A67F A681",
  "A683 A685 A687 A689 A68B A68D A68F A691 A693 A695 A697 A699 A69B A69E-A6E5 A6F0-A6F1",
  "A717-A71F A723 A725 A727 A729 A72B A72D A72F-A731 A733 A735 A737 A739 A73B A73D A73F A741",
  "A743 A745 A747 A749 A74B A74D A74F A751 A753 A755 A757 A759 A75B A75D A75F A761 A763 A765",
  "A767 A769 A76B A76D A76F A771-A778 A77A A77C A77F A781 A783 A785 A787-A788 A78C A78E-A78F",
  "A791 A793-A795 A797 A799 A79B A79D A79F A7A1 A7A3 A7A5 A7A7 A7A9 A7AF A7B5 A7B7 A7B9 A7BB",
  "A7BD A7BF A7C1 A7C3 A7C8 A7CA A7CD A7CF A7D1 A7D3 A7D5 A7D7 A7D9 A7DB A7F6-A7F7 A7FA-A827",
  "A82C A840-A873 A880-A8C5 A8D0-A8D9 A8E0-A8F7 A8FB A8FD-A92D A930-A953 A980-A9C0 A9CF-A9D9",
  "A9E0-A9FE AA00-AA36 AA40-AA4D AA50-AA59 AA60-AA76 AA7A-AAC2 AADB-AADD AAE0-AAEF AAF2-AAF6",
  "AB01-AB06 AB09-AB0E AB11-AB16 AB20-AB26 AB28-AB2E AB30-AB5A AB60-AB68 ABC0-ABEA ABEC-ABED",
  "ABF0-ABF9 AC00-D7A3 FA0E-FA0F FA11 FA13-FA14 FA1F FA21 FA23-FA24 FA27-FA29 FB1E FE20-FE2F",
  "FE73 10000-1000B 1000D-10026 10028-1003A 1003C-1003D 1003F-1004D 10050-1005D 10080-100FA",
  "101FD 10280-1029C 102A0-102D0 102E0 10300-1031F 1032D-10340 10342-10349 10350-1037A",
  "10380-1039D 103A0-103C3 103C8-103CF 10428-1049D 104A0-104A9 104D8-104FB 10500-10527",
  "10530-10563 10597-105A1 105A3-105B1 105B3-105B9 105BB-105BC 105C0-105F3 10600-10736",
  "10740-10755 10760-10767 10780 10800-10805 10808 1080A-10835 10837-10838 1083C 1083F-10855",
  "10860-10876 10880-1089E 108E0-108F2 108F4-108F5 10900-10915 10920-10939 10940-10959",
  "10980-109B7 109BE-109BF 10A00-10A03 10A05-10A06 10A0C-10A13 10A15-10A17 10A19-10A35",
  "10A38-10A3A 10A3F 10A60-10A7C 10A80-10A9C 10AC0-10AC7 10AC9-10AE6 10B00-10B35 10B40-10B55",
  "10B60-10B72 10B80-10B91 10C00-10C48 10CC0-10CF2 10D00-10D27 10D30-10D39 10D40-10D4F",
  "10D69-10D6D 10D6F-10D85 10E80-10EA9 10EAB-10EAC 10EB0-10EB1 10EC2-10EC7 10EFA-10F1C 10F27",
  "10F30-10F50 10F70-10F85 10FB0-10FC4 10FE0-10FF6 11000-11046 11066-11075 1107F-110BA 110C2",
  "110D0-110E8 110F0-110F9 11100-11134 11136-1113F 11144-11147 11150-11173 11176 11180-111C4",
  "111C9-111CC 111CE-111DA 111DC 11200-11211 11213-11237 1123E-11241 11280-11286 11288",
  "1128A-1128D 1128F-1129D 1129F-112A8 112B0-112EA 112F0-112F9 11300-11303 11305-1130C",
  "1130F-11310 11313-11328 1132A-11330 11332-11333 11335-11339 1133B-11344 11347-11348",
  "1134B-1134D 11350 11357 1135D-11363 11366-1136C 11370-11374 11380-11389 1138B 1138E",
  "11390-113B5 113B7-113C0 113C2 113C5 113C7-113CA 113CC-113D3 113E1-113E2 11400-1144A",
  "11450-11459 1145E-11461 11480-114C5 114C7 114D0-114D9 11580-115B5 115B8-115C0 115D8-115DD",
  "11600-11640 11644 11650-11659 11680-116B8 116C0-116C9 116D0-116E3 11700-1171A 1171D-1172B",
  "11730-11739 11740-11746 11800-1183A 118C0-118E9 118FF-11906 11909 1190C-11913 11915-11916",
  "11918-11935 11937-11938 1193B-11943 11950-11959 119A0-119A7 119AA-119D7 119DA-119E1",
  "119E3-119E4 11A00-11A3E 11A47 11A50-11A99 11A9D 11AB0-11AF8 11B60-11B67 11BC0-11BE0",
  "11BF0-11BF9 11C00-11C08 11C0A-11C36 11C38-11C40 11C50-11C59 11C72-11C8F 11C92-11CA7",
  "11CA9-11CB6 11D00-11D06 11D08-11D09 11D0B-11D36 11D3A 11D3C-11D3D 11D3F-11D47 11D50-11D59",
  "11D60-11D65 11D67-11D68 11D6A-11D8E 11D90-11D91 11D93-11D98 11DA0-11DA9 11DB0-11DDB",
  "11DE0-11DE9 11EE0-11EF6 11F00-11F10 11F12-11F3A 11F3E-11F42 11F50-11F5A 11FB0 12000-12399",
  "12480-12543 12F90-12FF0 13000-1342F 13440-13455 13460-143FA 14400-14646 16100-16139",
  "16800-16A38 16A40-16A5E 16A60-16A69 16A70-16ABE 16AC0-16AC9 16AD0-16AED 16AF0-16AF4",
  "16B00-16B36 16B40-16B43 16B50-16B59 16B63-16B77 16B7D-16B8F 16D40-16D6C 16D70-16D79",
  "16E60-16E7F 16EBB-16ED3 16F00-16F4A 16F4F-16F87 16F8F-16F9F 16FE0-16FE1 16FE3-16FE4",
  "16FF0-16FF3 17000-18CD5 18CFF-18D1E 18D80-18DF2 1AFF0-1AFF3 1AFF5-1AFFB 1AFFD-1AFFE",
  "1B000-1B122 1B132 1B150-1B152 1B155 1B164-1B167 1B170-1B2FB 1BC00-1BC6A 1BC70-1BC7C",
  "1BC80-1BC88 1BC90-1BC99 1BC9D-1BC9E 1CF00-1CF2D 1CF30-1CF46 1DA00-1DA36 1DA3B-1DA6C 1DA75",
  "1DA84 1DA9B-1DA9F 1DAA1-1DAAF 1DF00-1DF1E 1DF25-1DF2A 1E000-1E006 1E008-1E018 1E01B-1E021",
  "1E023-1E024 1E026-1E02A 1E08F 1E100-1E12C 1E130-1E13D 1E140-1E149 1E14E 1E290-1E2AE",
  "1E2C0-1E2F9 1E4D0-1E4F9 1E5D0-1E5FA 1E6C0-1E6DE 1E6E0-1E6F5 1E6FE-1E6FF 1E7E0-1E7E6",
  "1E7E8-1E7EB 1E7ED-1E7EE 1E7F0-1E7FE 1E800-1E8C4 1E8D0-1E8D6 1E922-1E94B 1E950-1E959",
  "20000-2A6DF 2A700-2B81D 2B820-2CEAD 2CEB0-2EBE0 2EBF0-2EE5D 30000-3134A 31350-33479"]

/-- How a character joins its neighbours in cursive scripts: `L` to the left, `R` to the
right, `D` to both sides, `T` not at all and without being seen. -/
def joining : CodeTable := .ofLines [
  "AD=T 300-36F=T 483-489=T 591-5BD=T 5BF=T 5C1-5C2=T 5C4-5C5=T 5C7=T 610-61A=T 61C=T 620=D",
  "622-625=R 626=D 627=R 628=D 629=R 62A-62E=D 62F-632=R 633-63F=D 641-647=D 648=R 649-64A=D",
  "64B-65F=T 66E-66F=D 670=T 671-673=R 675-677=R 678-687=D 688-699=R 69A-6BF=D 6C0=R 6C1-6C2=D",
  "6C3-6CB=R 6CC=D 6CD=R 6CE=D 6CF=R 6D0-6D1=D 6D2-6D3=R 6D5=R 6D6-6DC=T 6DF-6E4=T 6E7-6E8=T",
  "6EA-6ED=T 6EE-6EF=R 6FA-6FC=D 6FF=D 70F=T 710=R 711=T 712-714=D 715-719=R 71A-71D=D 71E=R",
  "71F-727=D 728=R 729=D 72A=R 72B=D 72C=R 72D-72E=D 72F=R 730-74A=T 74D=R 74E-758=D 759-75B=R",
  "75C-76A=D 76B-76C=R 76D-770=D 771=R 772=D 773-774=R 775-777=D 778-779=R 77A-77F=D 7A6-7B0=T",
  "7CA-7EA=D 7EB-7F3=T 7FD=T 816-819=T 81B-823=T 825-827=T 829-82D=T 840=R 841-845=D 846-847=R",
  "848=D 849=R 84A-853=D 854=R 855=D 856-858=R 859-85B=T 860=D 862-865=D 867=R 868=D 869-86A=R",
  "870-882=R 886=D 889-88D=D 88E=R 88F=D 897-89F=T 8A0-8A9=D 8AA-8AC=R 8AE=R 8AF-8B0=D",
  "8B1-8B2=R 8B3-8B8=D 8B9=R 8BA-8C8=D 8CA-8E1=T 8E3-902=T 93A=T 93C=T 941-948=T 94D=T",
  "951-957=T 962-963=T 981=T 9BC=T 9C1-9C4=T 9CD=T 9E2-9E3=T 9FE=T A01-A02=T A3C=T A41-A42=T",
  "A47-A48=T A4B-A4D=T A51=T A70-A71=T A75=T A81-A82=T ABC=T AC1-AC5=T AC7-AC8=T ACD=T",
  "AE2-AE3=T AFA-AFF=T B01=T B3C=T B3F=T B41-B44=T B4D=T B55-B56=T B62-B63=T B82=T BC0=T BCD=T",
  "C00=T C04=T C3C=T C3E-C40=T C46-C48=T C4A-C4D=T C55-C56=T C62-C63=T C81=T CBC=T CBF=T CC6=T",
  "CCC-CCD=T CE2-CE3=T D00-D01=T D3B-D3C=T D41-D44=T D4D=T D62-D63=T D81=T DCA=T DD2-DD4=T",
  "DD6=T E31=T E34-E3A=T E47-E4E=T EB1=T EB4-EBC=T EC8-ECE=T F18-F19=T F35=T F37=T F39=T",
  "F71-F7E=T F80-F84=T F86-F87=T F8D-F97=T F99-FBC=T FC6=T 102D-1030=T 1032-1037=T 1039-103A=T",
  "103D-103E=T 1058-1059=T 105E-1060=T 1071-1074=T 1082=T 1085-1086=T 108D=T 109D=T 135D-135F=T",
  "1712-1714=T 1732-1733=T 1752-1753=T 1772-1773=T 17B4-17B5=T 17B7-17BD=T 17C6=T 17C9-17D3=T",
  "17DD=T 1807=D 180B-180D=T 180F=T 1820-1878=D 1885-1886=T 1887-18A8=D 18A9=T 18AA=D",
  "1920-1922=T 1927-1928=T 1932=T 1939-193B=T 1A17-1A18=T 1A1B=T 1A56=T 1A58-1A5E=T 1A60=T",
  "1A62=T 1A65-1A6C=T 1A73-1A7C=T 1A7F=T 1AB0-1ADD=T 1AE0-1AEB=T 1B00-1B03=T 1B34=T 1B36-1B3A=T",
  "1B3C=T 1B42=T 1B6B-1B73=T 1B80-1B81=T 1BA2-1BA5=T 1BA8-1BA9=T 1BAB-1BAD=T 1BE6=T 1BE8-1BE9=T",
  "1BED=T 1BEF-1BF1=T 1C2C-1C33=T 1C36-1C37=T 1CD0-1CD2=T 1CD4-1CE0=T 1CE2-1CE8=T 1CED=T 1CF4=T",
  "1CF8-1CF9=T 1DC0-1DFF=T 200B=T 200E-200F=T 202A-202E=T 2060-2064=T 206A-206F=T 20D0-20F0=T",
  "2CEF-2CF1=T 2D7F=T 2DE0-2DFF=T 302A-302D=T 3099-309A=T A66F-A672=T A674-A67D=T A69E-A69F=T",
  "A6F0-A6F1=T A802=T A806=T A80B=T A825-A826=T A82C=T A840-A871=D A872=L A8C4-A8C5=T",
  "A8E0-A8F1=T A8FF=T A926-A92D=T A947-A951=T A980-A982=T A9B3=T A9B6-A9B9=T A9BC-A9BD=T A9E5=T",
  "AA29-AA2E=T AA31-AA32=T AA35-AA36=T AA43=T AA4C=T AA7C=T AAB0=T AAB2-AAB4=T AAB7-AAB8=T",
  "AABE-AABF=T AAC1=T AAEC-AAED=T AAF6=T ABE5=T ABE8=T ABED=T FB1E=T FE00-FE0F=T FE20-FE2F=T",
  "FEFF=T FFF9-FFFB=T 101FD=T 102E0=T 10376-1037A=T 10A01-10A03=T 10A05-10A06=T 10A0C-10A0F=T",
  "10A38-10A3A=T 10A3F=T 10AC0-10AC4=D 10AC5=R 10AC7=R 10AC9-10ACA=R 10ACD=L 10ACE-10AD2=R",
  "10AD3-10AD6=D 10AD7=L 10AD8-10ADC=D 10ADD=R 10ADE-10AE0=D 10AE1=R 10AE4=R 10AE5-10AE6=T",
  "10AEB-10AEE=D 10AEF=R 10B80=D 10B81=R 10B82=D 10B83-10B85=R 10B86-10B88=D 10B89=R",
  "10B8A-10B8B=D 10B8C=R 10B8D=D 10B8E-10B8F=R 10B90=D 10B91=R 10BA9-10BAC=R 10BAD-10BAE=D",
  "10D00=L 10D01-10D21=D 10D22=R 10D23=D 10D24-10D27=T 10D69-10D6D=T 10EAB-10EAC=T 10EC2=R",
  "10EC3-10EC4=D 10EC6-10EC7=D 10EFA-10EFF=T 10F30-10F32=D 10F33=R 10F34-10F44=D 10F46-10F50=T",
  "10F51-10F53=D 10F54=R 10F70-10F73=D 10F74-10F75=R 10F76-10F81=D 10F82-10F85=T 10FB0=D",
  "10FB2-10FB3=D 10FB4-10FB6=R 10FB8=D 10FB9-10FBA=R 10FBB-10FBC=D 10FBD=R 10FBE-10FBF=D",
  "10FC1=D 10FC2-10FC3=R 10FC4=D 10FC9=R 10FCA=D 10FCB=L 11001=T 11038-11046=T 11070=T",
  "11073-11074=T 1107F-11081=T 110B3-110B6=T 110B9-110BA=T 110C2=T 11100-11102=T 11127-1112B=T",
  "1112D-11134=T 11173=T 11180-11181=T 111B6-111BE=T 111C9-111CC=T 111CF=T 1122F-11231=T",
  "11234=T 11236-11237=T 1123E=T 11241=T 112DF=T 112E3-112EA=T 11300-11301=T 1133B-1133C=T",
  "11340=T 11366-1136C=T 11370-11374=T 113BB-113C0=T 113CE=T 113D0=T 113D2=T 113E1-113E2=T",
  "11438-1143F=T 11442-11444=T 11446=T 1145E=T 114B3-114B8=T 114BA=T 114BF-114C0=T",
  "114C2-114C3=T 115B2-115B5=T 115BC-115BD=T 115BF-115C0=T 115DC-115DD=T 11633-1163A=T 1163D=T",
  "1163F-11640=T 116AB=T 116AD=T 116B0-116B5=T 116B7=T 1171D=T 1171F=T 11722-11725=T",
  "11727-1172B=T 1182F-11837=T 11839-1183A=T 1193B-1193C=T 1193E=T 11943=T 119D4-119D7=T",
  "119DA-119DB=T 119E0=T 11A01-11A0A=T 11A33-11A38=T 11A3B-11A3E=T 11A47=T 11A51-11A56=T",
  "11A59-11A5B=T 11A8A-11A96=T 11A98-11A99=T 11B60=T 11B62-11B64=T 11B66=T 11C30-11C36=T",
  "11C38-11C3D=T 11C3F=T 11C92-11CA7=T 11CAA-11CB0=T 11CB2-11CB3=T 11CB5-11CB6=T 11D31-11D36=T",
  "11D3A=T 11D3C-11D3D=T 11D3F-11D45=T 11D47=T 11D90-11D91=T 11D95=T 11D97=T 11EF3-11EF4=T",
  "11F00-11F01=T 11F36-11F3A=T 11F40=T 11F42=T 11F5A=T 13430-13440=T 13447-13455=T",
  "1611E-16129=T 1612D-1612F=T 16AF0-16AF4=T 16B30-16B36=T 16F4F=T 16F8F-16F92=T 16FE4=T",
  "1BC9D-1BC9E=T 1BCA0-1BCA3=T 1CF00-1CF2D=T 1CF30-1CF46=T 1D167-1D169=T 1D173-1D182=T",
  "1D185-1D18B=T 1D1AA-1D1AD=T 1D242-1D244=T 1DA00-1DA36=T 1DA3B-1DA6C=T 1DA75=T 1DA84=T",
  "1DA9B-1DA9F=T 1DAA1-1DAAF=T 1E000-1E006=T 1E008-1E018=T 1E01B-1E021=T 1E023-1E024=T",
  "1E026-1E02A=T 1E08F=T 1E130-1E136=T 1E2AE=T 1E2EC-1E2EF=T 1E4EC-1E4EF=T 1E5EE-1E5EF=T",
  "1E6E3=T 1E6E6=T 1E6EE-1E6EF=T 1E6F5=T 1E8D0-1E8D6=T 1E900-1E943=D 1E944-1E94B=T E0001=T",
  "E0020-E007F=T E0100-E01EF=T"]

/-- Marks, which may not begin a label. -/
def marks : CodeTable := .ofLines [
  "300-36F 483-489 591-5BD 5BF 5C1-5C2 5C4-5C5 5C7 610-61A 64B-65F 670 6D6-6DC 6DF-6E4 6E7-6E8",
  "6EA-6ED 711 730-74A 7A6-7B0 7EB-7F3 7FD 816-819 81B-823 825-827 829-82D 859-85B 898-89F",
  "8CA-8E1 8E3-903 93A-93C 93E-94F 951-957 962-963 981-983 9BC 9BE-9C4 9C7-9C8 9CB-9CD 9D7",
  "9E2-9E3 9FE A01-A03 A3C A3E-A42 A47-A48 A4B-A4D A51 A70-A71 A75 A81-A83 ABC ABE-AC5 AC7-AC9",
  "ACB-ACD AE2-AE3 AFA-AFF B01-B03 B3C B3E-B44 B47-B48 B4B-B4D B55-B57 B62-B63 B82 BBE-BC2",
  "BC6-BC8 BCA-BCD BD7 C00-C04 C3C C3E-C44 C46-C48 C4A-C4D C55-C56 C62-C63 C81-C83 CBC CBE-CC4",
  "CC6-CC8 CCA-CCD CD5-CD6 CE2-CE3 D00-D03 D3B-D3C D3E-D44 D46-D48 D4A-D4D D57 D62-D63 D81-D83",
  "DCA DCF-DD4 DD6 DD8-DDF DF2-DF3 E31 E34-E3A E47-E4E EB1 EB4-EBC EC8-ECD F18-F19 F35 F37 F39",
  "F3E-F3F F71-F84 F86-F87 F8D-F97 F99-FBC FC6 102B-103E 1056-1059 105E-1060 1062-1064",
  "1067-106D 1071-1074 1082-108D 108F 109A-109D 135D-135F 1712-1715 1732-1734 1752-1753",
  "1772-1773 17B4-17D3 17DD 180B-180D 180F 1885-1886 18A9 1920-192B 1930-193B 1A17-1A1B",
  "1A55-1A5E 1A60-1A7C 1A7F 1AB0-1ACE 1B00-1B04 1B34-1B44 1B6B-1B73 1B80-1B82 1BA1-1BAD",
  "1BE6-1BF3 1C24-1C37 1CD0-1CD2 1CD4-1CE8 1CED 1CF4 1CF7-1CF9 1DC0-1DFF 20D0-20F0 2CEF-2CF1",
  "2D7F 2DE0-2DFF 302A-302F 3099-309A A66F-A672 A674-A67D A69E-A69F A6F0-A6F1 A802 A806 A80B",
  "A823-A827 A82C A880-A881 A8B4-A8C5 A8E0-A8F1 A8FF A926-A92D A947-A953 A980-A983 A9B3-A9C0",
  "A9E5 AA29-AA36 AA43 AA4C-AA4D AA7B-AA7D AAB0 AAB2-AAB4 AAB7-AAB8 AABE-AABF AAC1 AAEB-AAEF",
  "AAF5-AAF6 ABE3-ABEA ABEC-ABED FB1E FE00-FE0F FE20-FE2F 101FD 102E0 10376-1037A 10A01-10A03",
  "10A05-10A06 10A0C-10A0F 10A38-10A3A 10A3F 10AE5-10AE6 10D24-10D27 10EAB-10EAC 10F46-10F50",
  "10F82-10F85 11000-11002 11038-11046 11070 11073-11074 1107F-11082 110B0-110BA 110C2",
  "11100-11102 11127-11134 11145-11146 11173 11180-11182 111B3-111C0 111C9-111CC 111CE-111CF",
  "1122C-11237 1123E 112DF-112EA 11300-11303 1133B-1133C 1133E-11344 11347-11348 1134B-1134D",
  "11357 11362-11363 11366-1136C 11370-11374 11435-11446 1145E 114B0-114C3 115AF-115B5",
  "115B8-115C0 115DC-115DD 11630-11640 116AB-116B7 1171D-1172B 1182C-1183A 11930-11935",
  "11937-11938 1193B-1193E 11940 11942-11943 119D1-119D7 119DA-119E0 119E4 11A01-11A0A",
  "11A33-11A39 11A3B-11A3E 11A47 11A51-11A5B 11A8A-11A99 11C2F-11C36 11C38-11C3F 11C92-11CA7",
  "11CA9-11CB6 11D31-11D36 11D3A 11D3C-11D3D 11D3F-11D45 11D47 11D8A-11D8E 11D90-11D91",
  "11D93-11D97 11EF3-11EF6 16AF0-16AF4 16B30-16B36 16F4F 16F51-16F87 16F8F-16F92 16FE4",
  "16FF0-16FF1 1BC9D-1BC9E 1CF00-1CF2D 1CF30-1CF46 1D165-1D169 1D16D-1D172 1D17B-1D182",
  "1D185-1D18B 1D1AA-1D1AD 1D242-1D244 1DA00-1DA36 1DA3B-1DA6C 1DA75 1DA84 1DA9B-1DA9F",
  "1DAA1-1DAAF 1E000-1E006 1E008-1E018 1E01B-1E021 1E023-1E024 1E026-1E02A 1E130-1E136 1E2AE",
  "1E2EC-1E2EF 1E8D0-1E8D6 1E944-1E94A E0100-E01EF"]

def greek : CodeTable := .ofLines [
  "370-373 375-377 37A-37D 37F 384 386 388-38A 38C 38E-3A1 3A3-3E1 3F0-3FF 1D26-1D2A 1D5D-1D61",
  "1D66-1D6A 1DBF 1F00-1F15 1F18-1F1D 1F20-1F45 1F48-1F4D 1F50-1F57 1F59 1F5B 1F5D 1F5F-1F7D",
  "1F80-1FB4 1FB6-1FC4 1FC6-1FD3 1FD6-1FDB 1FDD-1FEF 1FF2-1FF4 1FF6-1FFE 2126 AB65 10140-1018E",
  "101A0 1D200-1D245"]

def hebrew : CodeTable := .ofLines [
  "591-5C7 5D0-5EA 5EF-5F4 FB1D-FB36 FB38-FB3C FB3E FB40-FB41 FB43-FB44 FB46-FB4F"]

def hiragana : CodeTable := .ofLines [
  "3041-3096 309D-309F 1B001-1B11F 1B132 1B150-1B152 1F200"]

def katakana : CodeTable := .ofLines [
  "30A1-30FA 30FD-30FF 31F0-31FF 32D0-32FE 3300-3357 FF66-FF6F FF71-FF9D 1AFF0-1AFF3",
  "1AFF5-1AFFB 1AFFD-1AFFE 1B000 1B120-1B122 1B155 1B164-1B167"]

def han : CodeTable := .ofLines [
  "2E80-2E99 2E9B-2EF3 2F00-2FD5 3005 3007 3021-3029 3038-303B 3400-4DBF 4E00-9FFF F900-FA6D",
  "FA70-FAD9 16FE2-16FE3 16FF0-16FF6 20000-2A6DF 2A700-2B81D 2B820-2CEAD 2CEB0-2EBE0",
  "2EBF0-2EE5D 2F800-2FA1D 30000-3134A 31350-33479"]

end MmsHttp.Idna
