/-!
# Tables of normal forms

The data of the compatibility normal form of names, version 14 of the Unicode character database.
Code points are written in base 16.

* `imageTable` — the characters of names that stand for others;
* `pairTable` — the pairs of characters that make one;
* `classTable` — the classes of the marks.
-/

namespace Conduit.Text.Normal

/-- What characters stand for: after a code point and a colon, the texts for it and for those
that follow it, characters joined by a plus. -/
def imageTable : List String :=
  ["AA: 61 B5: 3BC BA: 6F 132: 49+4A 69+6A 13F: 4C+B7 6C+B7 149: 2BC+6E 17F: 73 1C4: 44+17D",
   "44+17E 64+17E 4C+4A 4C+6A 6C+6A 4E+4A 4E+6A 6E+6A 1F1: 44+5A 44+7A 64+7A 2B0: 68 266 6A 72",
   "279 27B 281 77 79 2E0: 263 6C 73 78 295 340: 300 301 343: 313 308+301 374: 2B9 387: B7",
   "3D0: 3B2 3B8 3A5 38E 3AB 3C6 3C0 3F0: 3BA 3C1 3C2 3F4: 398 3B5 3F9: 3A3 587: 565+582 675:",
   "627+674 648+674 6C7+674 64A+674 958: 915+93C 916+93C 917+93C 91C+93C 921+93C 922+93C",
   "92B+93C 92F+93C 9DC: 9A1+9BC 9A2+9BC 9DF: 9AF+9BC A33: A32+A3C A36: A38+A3C A59: A16+A3C",
   "A17+A3C A1C+A3C A5E: A2B+A3C B5C: B21+B3C B22+B3C E33: E4D+E32 EB3: ECD+EB2 EDC: EAB+E99",
   "EAB+EA1 F43: F42+FB7 F4D: F4C+FB7 F52: F51+FB7 F57: F56+FB7 F5C: F5B+FB7 F69: F40+FB5 F73:",
   "F71+F72 F75: F71+F74 FB2+F80 FB2+F71+F80 FB3+F80 FB3+F71+F80 F81: F71+F80 F93: F92+FB7",
   "F9D: F9C+FB7 FA2: FA1+FB7 FA7: FA6+FB7 FAC: FAB+FB7 FB9: F90+FB5 10FC: 10DC 1D2C: 41 C6 42",
   "1D30: 44 45 18E 47 48 49 4A 4B 4C 4D 4E 1D3C: 4F 222 50 52 54 55 57 61 250 251 1D02 62 64",
   "65 259 25B 25C 67 1D4F: 6B 6D 14B 6F 254 1D16 1D17 70 74 75 1D1D 26F 76 1D25 3B2 3B3 3B4",
   "3C6 3C7 69 72 75 76 3B2 3B3 3C1 3C6 3C7 1D78: 43D 1D9B: 252 63 255 F0 25C 66 25F 261 265",
   "268 269 26A 1D7B 29D 26D 1D85 29F 271 270 272 273 274 275 278 282 283 1AB 289 28A 1D1C 28B",
   "28C 7A 290 291 292 3B8 1E9A: 61+2BE 1E61 1F71: 3AC 1F73: 3AD 1F75: 3AE 1F77: 3AF 1F79: 3CC",
   "1F7B: 3CD 1F7D: 3CE 1FBB: 386 1FBE: 3B9 1FC9: 388 1FCB: 389 1FD3: 390 1FDB: 38A 1FE3: 3B0",
   "1FEB: 38E 1FF9: 38C 1FFB: 38F 2071: 69 207F: 6E 2090: 61 65 6F 78 259 68 6B 6C 6D 6E 70 73",
   "74 2102: 43 2107: 190 210A: 67 48 48 48 68 127 49 49 4C 6C 2115: 4E 2119: 50 51 52 52 52",
   "2124: 5A 2126: 3A9 2128: 5A 212A: 4B C5 42 43 212F: 65 45 46 2133: 4D 6F 5D0 5D1 5D2 5D3",
   "69 213C: 3C0 3B3 393 3A0 2145: 44 64 65 69 6A 2160: 49 49+49 49+49+49 49+56 56 56+49",
   "56+49+49 56+49+49+49 49+58 58 58+49 58+49+49 4C 43 44 4D 69 69+69 69+69+69 69+76 76 76+69",
   "76+69+69 76+69+69+69 69+78 78 78+69 78+69+69 6C 63 64 6D 2C7C: 6A 56 2D6F: 2D61 3038: 5341",
   "5344 5345 309F: 3088+308A 30FF: 30B3+30C8 3131: 1100 1101 11AA 1102 11AC 11AD 1103 1104",
   "1105 11B0 11B1 11B2 11B3 11B4 11B5 111A 1106 1107 1108 1121 1109 110A 110B 110C 110D 110E",
   "110F 1110 1111 1112 1161 1162 1163 1164 1165 1166 1167 1168 1169 116A 116B 116C 116D 116E",
   "116F 1170 1171 1172 1173 1174 1175 1160 1114 1115 11C7 11C8 11CC 11CE 11D3 11D7 11D9 111C",
   "11DD 11DF 111D 111E 1120 1122 1123 1127 1129 112B 112C 112D 112E 112F 1132 1136 1140 1147",
   "114C 11F1 11F2 1157 1158 1159 1184 1185 1188 1191 1192 1194 119E 11A1 A69C: 44A 44C A770:",
   "A76F A7F2: 43 46 51 A7F8: 126 153 AB5C: A727 AB37 26B AB52 AB69: 28D F900: 8C48 66F4 8ECA",
   "8CC8 6ED1 4E32 53E5 9F9C 9F9C 5951 91D1 5587 5948 61F6 7669 7F85 863F 87BA 88F8 908F 6A02",
   "6D1B 70D9 73DE 843D 916A 99F1 4E82 5375 6B04 721B 862D 9E1E 5D50 6FEB 85CD 8964 62C9 81D8",
   "881F 5ECA 6717 6D6A 72FC 90CE 4F86 51B7 52DE 64C4 6AD3 7210 76E7 8001 8606 865C 8DEF 9732",
   "9B6F 9DFA 788C 797F 7DA0 83C9 9304 9E7F 8AD6 58DF 5F04 7C60 807E 7262 78CA 8CC2 96F7 58D8",
   "5C62 6A13 6DDA 6F0F 7D2F 7E37 964B 52D2 808B 51DC 51CC 7A1C 7DBE 83F1 9675 8B80 62CF 6A02",
   "8AFE 4E39 5BE7 6012 7387 7570 5317 78FB 4FBF 5FA9 4E0D 6CCC 6578 7D22 53C3 585E 7701 8449",
   "8AAA 6BBA 8FB0 6C88 62FE 82E5 63A0 7565 4EAE 5169 51C9 6881 7CE7 826F 8AD2 91CF 52F5 5442",
   "5973 5EEC 65C5 6FFE 792A 95AD 9A6A 9E97 9ECE 529B 66C6 6B77 8F62 5E74 6190 6200 649A 6F23",
   "7149 7489 79CA 7DF4 806F 8F26 84EE 9023 934A 5217 52A3 54BD 70C8 88C2 8AAA 5EC9 5FF5 637B",
   "6BAE 7C3E 7375 4EE4 56F9 5BE7 5DBA 601C 73B2 7469 7F9A 8046 9234 96F6 9748 9818 4F8B 79AE",
   "91B4 96B8 60E1 4E86 50DA 5BEE 5C3F 6599 6A02 71CE 7642 84FC 907C 9F8D 6688 962E 5289 677B",
   "67F3 6D41 6E9C 7409 7559 786B 7D10 985E 516D 622E 9678 502B 5D19 6DEA 8F2A 5F8B 6144 6817",
   "7387 9686 5229 540F 5C65 6613 674E 68A8 6CE5 7406 75E2 7F79 88CF 88E1 91CC 96E2 533F 6EBA",
   "541D 71D0 7498 85FA 96A3 9C57 9E9F 6797 6DCB 81E8 7ACB 7B20 7C92 72C0 7099 8B58 4EC0 8336",
   "523A 5207 5EA6 62D3 7CD6 5B85 6D1E 66B4 8F3B 884C 964D 898B 5ED3 5140 55C0 FA10: 585A",
   "FA12: 6674 FA15: 51DE 732A 76CA 793C 795E 7965 798F 9756 7CBE 7FBD FA20: 8612 FA22: 8AF8",
   "FA25: 9038 90FD FA2A: 98EF 98FC 9928 9DB4 90DE 96B7 4FAE 50E7 514D 52C9 52E4 5351 559D",
   "5606 5668 5840 58A8 5C64 5C6E 6094 6168 618E 61F2 654F 65E2 6691 6885 6D77 6E1A 6F22 716E",
   "722B 7422 7891 793E 7949 7948 7950 7956 795D 798D 798E 7A40 7A81 7BC0 7DF4 7E09 7E41 7F72",
   "8005 81ED 8279 8279 8457 8910 8996 8B01 8B39 8CD3 8D08 8FB6 9038 96E3 97FF 983B 6075 242EE",
   "8218 FA70: 4E26 51B5 5168 4F80 5145 5180 52C7 52FA 559D 5555 5599 55E2 585A 58B3 5944 5954",
   "5A62 5B28 5ED2 5ED9 5F69 5FAD 60D8 614E 6108 618E 6160 61F2 6234 63C4 641C 6452 6556 6674",
   "6717 671B 6756 6B79 6BBA 6D41 6EDB 6ECB 6F22 701E 716E 77A7 7235 72AF 732A 7471 7506 753B",
   "761D 761F 76CA 76DB 76F4 774A 7740 78CC 7AB1 7BC0 7C7B 7D5B 7DF4 7F3E 8005 8352 83EF 8779",
   "8941 8986 8996 8ABF 8AF8 8ACB 8B01 8AFE 8AED 8B39 8B8A 8D08 8F38 9072 9199 9276 967C 96E3",
   "9756 97DB 97FF 980B 983B 9B12 9F9C 2284A 22844 233D5 3B9D 4018 4039 25249 25CD0 27ED3 9F43",
   "9F8E FB00: 66+66 66+69 66+6C 66+66+69 66+66+6C 73+74 73+74 FB13: 574+576 574+565 574+56B",
   "57E+576 574+56D FB1D: 5D9+5B4 FB1F: 5F2+5B7 5E2 5D0 5D3 5D4 5DB 5DC 5DD 5E8 5EA FB2A:",
   "5E9+5C1 5E9+5C2 5E9+5BC+5C1 5E9+5BC+5C2 5D0+5B7 5D0+5B8 5D0+5BC 5D1+5BC 5D2+5BC 5D3+5BC",
   "5D4+5BC 5D5+5BC 5D6+5BC FB38: 5D8+5BC 5D9+5BC 5DA+5BC 5DB+5BC 5DC+5BC FB3E: 5DE+5BC FB40:",
   "5E0+5BC 5E1+5BC FB43: 5E3+5BC 5E4+5BC FB46: 5E6+5BC 5E7+5BC 5E8+5BC 5E9+5BC 5EA+5BC",
   "5D5+5B9 5D1+5BF 5DB+5BF 5E4+5BF 5D0+5DC 671 671 67B 67B 67B 67B 67E 67E 67E 67E 680 680",
   "680 680 67A 67A 67A 67A 67F 67F 67F 67F 679 679 679 679 6A4 6A4 6A4 6A4 6A6 6A6 6A6 6A6",
   "684 684 684 684 683 683 683 683 686 686 686 686 687 687 687 687 68D 68D 68C 68C 68E 68E",
   "688 688 698 698 691 691 6A9 6A9 6A9 6A9 6AF 6AF 6AF 6AF 6B3 6B3 6B3 6B3 6B1 6B1 6B1 6B1",
   "6BA 6BA 6BB 6BB 6BB 6BB 6C0 6C0 6C1 6C1 6C1 6C1 6BE 6BE 6BE 6BE 6D2 6D2 6D3 6D3 FBD3: 6AD",
   "6AD 6AD 6AD 6C7 6C7 6C6 6C6 6C8 6C8 6C7+674 6CB 6CB 6C5 6C5 6C9 6C9 6D0 6D0 6D0 6D0 649",
   "649 626+627 626+627 626+6D5 626+6D5 626+648 626+648 626+6C7 626+6C7 626+6C6 626+6C6",
   "626+6C8 626+6C8 626+6D0 626+6D0 626+6D0 626+649 626+649 626+649 6CC 6CC 6CC 6CC 626+62C",
   "626+62D 626+645 626+649 626+64A 628+62C 628+62D 628+62E 628+645 628+649 628+64A 62A+62C",
   "62A+62D 62A+62E 62A+645 62A+649 62A+64A 62B+62C 62B+645 62B+649 62B+64A 62C+62D 62C+645",
   "62D+62C 62D+645 62E+62C 62E+62D 62E+645 633+62C 633+62D 633+62E 633+645 635+62D 635+645",
   "636+62C 636+62D 636+62E 636+645 637+62D 637+645 638+645 639+62C 639+645 63A+62C 63A+645",
   "641+62C 641+62D 641+62E 641+645 641+649 641+64A 642+62D 642+645 642+649 642+64A 643+627",
   "643+62C 643+62D 643+62E 643+644 643+645 643+649 643+64A 644+62C 644+62D 644+62E 644+645",
   "644+649 644+64A 645+62C 645+62D 645+62E 645+645 645+649 645+64A 646+62C 646+62D 646+62E",
   "646+645 646+649 646+64A 647+62C 647+645 647+649 647+64A 64A+62C 64A+62D 64A+62E 64A+645",
   "64A+649 64A+64A 630+670 631+670 649+670 FC64: 626+631 626+632 626+645 626+646 626+649",
   "626+64A 628+631 628+632 628+645 628+646 628+649 628+64A 62A+631 62A+632 62A+645 62A+646",
   "62A+649 62A+64A 62B+631 62B+632 62B+645 62B+646 62B+649 62B+64A 641+649 641+64A 642+649",
   "642+64A 643+627 643+644 643+645 643+649 643+64A 644+645 644+649 644+64A 645+627 645+645",
   "646+631 646+632 646+645 646+646 646+649 646+64A 649+670 64A+631 64A+632 64A+645 64A+646",
   "64A+649 64A+64A 626+62C 626+62D 626+62E 626+645 626+647 628+62C 628+62D 628+62E 628+645",
   "628+647 62A+62C 62A+62D 62A+62E 62A+645 62A+647 62B+645 62C+62D 62C+645 62D+62C 62D+645",
   "62E+62C 62E+645 633+62C 633+62D 633+62E 633+645 635+62D 635+62E 635+645 636+62C 636+62D",
   "636+62E 636+645 637+62D 638+645 639+62C 639+645 63A+62C 63A+645 641+62C 641+62D 641+62E",
   "641+645 642+62D 642+645 643+62C 643+62D 643+62E 643+644 643+645 644+62C 644+62D 644+62E",
   "644+645 644+647 645+62C 645+62D 645+62E 645+645 646+62C 646+62D 646+62E 646+645 646+647",
   "647+62C 647+645 647+670 64A+62C 64A+62D 64A+62E 64A+645 64A+647 626+645 626+647 628+645",
   "628+647 62A+645 62A+647 62B+645 62B+647 633+645 633+647 634+645 634+647 643+644 643+645",
   "644+645 646+645 646+647 64A+645 64A+647 640+64E+651 640+64F+651 640+650+651 637+649",
   "637+64A 639+649 639+64A 63A+649 63A+64A 633+649 633+64A 634+649 634+64A 62D+649 62D+64A",
   "62C+649 62C+64A 62E+649 62E+64A 635+649 635+64A 636+649 636+64A 634+62C 634+62D 634+62E",
   "634+645 634+631 633+631 635+631 636+631 637+649 637+64A 639+649 639+64A 63A+649 63A+64A",
   "633+649 633+64A 634+649 634+64A 62D+649 62D+64A 62C+649 62C+64A 62E+649 62E+64A 635+649",
   "635+64A 636+649 636+64A 634+62C 634+62D 634+62E 634+645 634+631 633+631 635+631 636+631",
   "634+62C 634+62D 634+62E 634+645 633+647 634+647 637+645 633+62C 633+62D 633+62E 634+62C",
   "634+62D 634+62E 637+645 638+645 627+64B 627+64B FD50: 62A+62C+645 62A+62D+62C 62A+62D+62C",
   "62A+62D+645 62A+62E+645 62A+645+62C 62A+645+62D 62A+645+62E 62C+645+62D 62C+645+62D",
   "62D+645+64A 62D+645+649 633+62D+62C 633+62C+62D 633+62C+649 633+645+62D 633+645+62D",
   "633+645+62C 633+645+645 633+645+645 635+62D+62D 635+62D+62D 635+645+645 634+62D+645",
   "634+62D+645 634+62C+64A 634+645+62E 634+645+62E 634+645+645 634+645+645 636+62D+649",
   "636+62E+645 636+62E+645 637+645+62D 637+645+62D 637+645+645 637+645+64A 639+62C+645",
   "639+645+645 639+645+645 639+645+649 63A+645+645 63A+645+64A 63A+645+649 641+62E+645",
   "641+62E+645 642+645+62D 642+645+645 644+62D+645 644+62D+64A 644+62D+649 644+62C+62C",
   "644+62C+62C 644+62E+645 644+62E+645 644+645+62D 644+645+62D 645+62D+62C 645+62D+645",
   "645+62D+64A 645+62C+62D 645+62C+645 645+62E+62C 645+62E+645 FD92: 645+62C+62E 647+645+62C",
   "647+645+645 646+62D+645 646+62D+649 646+62C+645 646+62C+645 646+62C+649 646+645+64A",
   "646+645+649 64A+645+645 64A+645+645 628+62E+64A 62A+62C+64A 62A+62C+649 62A+62E+64A",
   "62A+62E+649 62A+645+64A 62A+645+649 62C+645+64A 62C+62D+649 62C+645+649 633+62E+649",
   "635+62D+64A 634+62D+64A 636+62D+64A 644+62C+64A 644+645+64A 64A+62D+64A 64A+62C+64A",
   "64A+645+64A 645+645+64A 642+645+64A 646+62D+64A 642+645+62D 644+62D+645 639+645+64A",
   "643+645+64A 646+62C+62D 645+62E+64A 644+62C+645 643+645+645 644+62C+645 646+62C+62D",
   "62C+62D+64A 62D+62C+64A 645+62C+64A 641+645+64A 628+62D+64A 643+645+645 639+62C+645",
   "635+645+645 633+62E+64A 646+62C+64A FDF0: 635+644+6D2 642+644+6D2 627+644+644+647",
   "627+643+628+631 645+62D+645+62F 635+644+639+645 631+633+648+644 639+644+64A+647",
   "648+633+644+645 635+644+649 FE33: 5F 5F FE4D: 5F 5F 5F FE71: 640+64B FE77: 640+64E FE79:",
   "640+64F FE7B: 640+650 FE7D: 640+651 FE7F: 640+652 621 622 622 623 623 624 624 625 625 626",
   "626 626 626 627 627 628 628 628 628 629 629 62A 62A 62A 62A 62B 62B 62B 62B 62C 62C 62C",
   "62C 62D 62D 62D 62D 62E 62E 62E 62E 62F 62F 630 630 631 631 632 632 633 633 633 633 634",
   "634 634 634 635 635 635 635 636 636 636 636 637 637 637 637 638 638 638 638 639 639 639",
   "639 63A 63A 63A 63A 641 641 641 641 642 642 642 642 643 643 643 643 644 644 644 644 645",
   "645 645 645 646 646 646 646 647 647 647 647 648 648 649 649 64A 64A 64A 64A 644+622",
   "644+622 644+623 644+623 644+625 644+625 644+627 644+627 FF10: 30 31 32 33 34 35 36 37 38",
   "39 FF21: 41 42 43 44 45 46 47 48 49 4A 4B 4C 4D 4E 4F 50 51 52 53 54 55 56 57 58 59 5A",
   "FF3F: 5F FF41: 61 62 63 64 65 66 67 68 69 6A 6B 6C 6D 6E 6F 70 71 72 73 74 75 76 77 78 79",
   "7A FF66: 30F2 30A1 30A3 30A5 30A7 30A9 30E3 30E5 30E7 30C3 30FC 30A2 30A4 30A6 30A8 30AA",
   "30AB 30AD 30AF 30B1 30B3 30B5 30B7 30B9 30BB 30BD 30BF 30C1 30C4 30C6 30C8 30CA 30CB 30CC",
   "30CD 30CE 30CF 30D2 30D5 30D8 30DB 30DE 30DF 30E0 30E1 30E2 30E4 30E6 30E8 30E9 30EA 30EB",
   "30EC 30ED 30EF 30F3 3099 309A 1160 1100 1101 11AA 1102 11AC 11AD 1103 1104 1105 11B0 11B1",
   "11B2 11B3 11B4 11B5 111A 1106 1107 1108 1121 1109 110A 110B 110C 110D 110E 110F 1110 1111",
   "1112 FFC2: 1161 1162 1163 1164 1165 1166 FFCA: 1167 1168 1169 116A 116B 116C FFD2: 116D",
   "116E 116F 1170 1171 1172 FFDA: 1173 1174 1175 10781: 2D0 2D1 E6 299 253 10787: 2A3 AB66",
   "2A5 2A4 256 257 1D91 258 25E 2A9 264 262 260 29B 127 29C 267 284 2AA 2AB 26C 1DF04 A78E",
   "26E 1DF05 28E 1DF06 F8 276 277 71 27A 1DF08 27D 27E 280 2A8 2A6 AB67 2A7 288 2C71 107B2:",
   "28F 2A1 2A2 298 1C0 1C1 1C2 1DF0A 1DF1E 1D400: 41 42 43 44 45 46 47 48 49 4A 4B 4C 4D 4E",
   "4F 50 51 52 53 54 55 56 57 58 59 5A 61 62 63 64 65 66 67 68 69 6A 6B 6C 6D 6E 6F 70 71 72",
   "73 74 75 76 77 78 79 7A 41 42 43 44 45 46 47 48 49 4A 4B 4C 4D 4E 4F 50 51 52 53 54 55 56",
   "57 58 59 5A 61 62 63 64 65 66 67 1D456: 69 6A 6B 6C 6D 6E 6F 70 71 72 73 74 75 76 77 78 79",
   "7A 41 42 43 44 45 46 47 48 49 4A 4B 4C 4D 4E 4F 50 51 52 53 54 55 56 57 58 59 5A 61 62 63",
   "64 65 66 67 68 69 6A 6B 6C 6D 6E 6F 70 71 72 73 74 75 76 77 78 79 7A 41 1D49E: 43 44",
   "1D4A2: 47 1D4A5: 4A 4B 1D4A9: 4E 4F 50 51 1D4AE: 53 54 55 56 57 58 59 5A 61 62 63 64",
   "1D4BB: 66 1D4BD: 68 69 6A 6B 6C 6D 6E 1D4C5: 70 71 72 73 74 75 76 77 78 79 7A 41 42 43 44",
   "45 46 47 48 49 4A 4B 4C 4D 4E 4F 50 51 52 53 54 55 56 57 58 59 5A 61 62 63 64 65 66 67 68",
   "69 6A 6B 6C 6D 6E 6F 70 71 72 73 74 75 76 77 78 79 7A 41 42 1D507: 44 45 46 47 1D50D: 4A",
   "4B 4C 4D 4E 4F 50 51 1D516: 53 54 55 56 57 58 59 1D51E: 61 62 63 64 65 66 67 68 69 6A 6B",
   "6C 6D 6E 6F 70 71 72 73 74 75 76 77 78 79 7A 41 42 1D53B: 44 45 46 47 1D540: 49 4A 4B 4C",
   "4D 1D546: 4F 1D54A: 53 54 55 56 57 58 59 1D552: 61 62 63 64 65 66 67 68 69 6A 6B 6C 6D 6E",
   "6F 70 71 72 73 74 75 76 77 78 79 7A 41 42 43 44 45 46 47 48 49 4A 4B 4C 4D 4E 4F 50 51 52",
   "53 54 55 56 57 58 59 5A 61 62 63 64 65 66 67 68 69 6A 6B 6C 6D 6E 6F 70 71 72 73 74 75 76",
   "77 78 79 7A 41 42 43 44 45 46 47 48 49 4A 4B 4C 4D 4E 4F 50 51 52 53 54 55 56 57 58 59 5A",
   "61 62 63 64 65 66 67 68 69 6A 6B 6C 6D 6E 6F 70 71 72 73 74 75 76 77 78 79 7A 41 42 43 44",
   "45 46 47 48 49 4A 4B 4C 4D 4E 4F 50 51 52 53 54 55 56 57 58 59 5A 61 62 63 64 65 66 67 68",
   "69 6A 6B 6C 6D 6E 6F 70 71 72 73 74 75 76 77 78 79 7A 41 42 43 44 45 46 47 48 49 4A 4B 4C",
   "4D 4E 4F 50 51 52 53 54 55 56 57 58 59 5A 61 62 63 64 65 66 67 68 69 6A 6B 6C 6D 6E 6F 70",
   "71 72 73 74 75 76 77 78 79 7A 41 42 43 44 45 46 47 48 49 4A 4B 4C 4D 4E 4F 50 51 52 53 54",
   "55 56 57 58 59 5A 61 62 63 64 65 66 67 68 69 6A 6B 6C 6D 6E 6F 70 71 72 73 74 75 76 77 78",
   "79 7A 41 42 43 44 45 46 47 48 49 4A 4B 4C 4D 4E 4F 50 51 52 53 54 55 56 57 58 59 5A 61 62",
   "63 64 65 66 67 68 69 6A 6B 6C 6D 6E 6F 70 71 72 73 74 75 76 77 78 79 7A 131 237 1D6A8: 391",
   "392 393 394 395 396 397 398 399 39A 39B 39C 39D 39E 39F 3A0 3A1 398 3A3 3A4 3A5 3A6 3A7",
   "3A8 3A9 1D6C2: 3B1 3B2 3B3 3B4 3B5 3B6 3B7 3B8 3B9 3BA 3BB 3BC 3BD 3BE 3BF 3C0 3C1 3C2 3C3",
   "3C4 3C5 3C6 3C7 3C8 3C9 1D6DC: 3B5 3B8 3BA 3C6 3C1 3C0 391 392 393 394 395 396 397 398 399",
   "39A 39B 39C 39D 39E 39F 3A0 3A1 398 3A3 3A4 3A5 3A6 3A7 3A8 3A9 1D6FC: 3B1 3B2 3B3 3B4 3B5",
   "3B6 3B7 3B8 3B9 3BA 3BB 3BC 3BD 3BE 3BF 3C0 3C1 3C2 3C3 3C4 3C5 3C6 3C7 3C8 3C9 1D716: 3B5",
   "3B8 3BA 3C6 3C1 3C0 391 392 393 394 395 396 397 398 399 39A 39B 39C 39D 39E 39F 3A0 3A1",
   "398 3A3 3A4 3A5 3A6 3A7 3A8 3A9 1D736: 3B1 3B2 3B3 3B4 3B5 3B6 3B7 3B8 3B9 3BA 3BB 3BC 3BD",
   "3BE 3BF 3C0 3C1 3C2 3C3 3C4 3C5 3C6 3C7 3C8 3C9 1D750: 3B5 3B8 3BA 3C6 3C1 3C0 391 392 393",
   "394 395 396 397 398 399 39A 39B 39C 39D 39E 39F 3A0 3A1 398 3A3 3A4 3A5 3A6 3A7 3A8 3A9",
   "1D770: 3B1 3B2 3B3 3B4 3B5 3B6 3B7 3B8 3B9 3BA 3BB 3BC 3BD 3BE 3BF 3C0 3C1 3C2 3C3 3C4 3C5",
   "3C6 3C7 3C8 3C9 1D78A: 3B5 3B8 3BA 3C6 3C1 3C0 391 392 393 394 395 396 397 398 399 39A 39B",
   "39C 39D 39E 39F 3A0 3A1 398 3A3 3A4 3A5 3A6 3A7 3A8 3A9 1D7AA: 3B1 3B2 3B3 3B4 3B5 3B6 3B7",
   "3B8 3B9 3BA 3BB 3BC 3BD 3BE 3BF 3C0 3C1 3C2 3C3 3C4 3C5 3C6 3C7 3C8 3C9 1D7C4: 3B5 3B8 3BA",
   "3C6 3C1 3C0 3DC 3DD 1D7CE: 30 31 32 33 34 35 36 37 38 39 30 31 32 33 34 35 36 37 38 39 30",
   "31 32 33 34 35 36 37 38 39 30 31 32 33 34 35 36 37 38 39 30 31 32 33 34 35 36 37 38 39",
   "1EE00: 627 628 62C 62F 1EE05: 648 632 62D 637 64A 643 644 645 646 633 639 641 635 642 631",
   "634 62A 62B 62E 630 636 638 63A 66E 6BA 6A1 66F 1EE21: 628 62C 1EE24: 647 1EE27: 62D",
   "1EE29: 64A 643 644 645 646 633 639 641 635 642 1EE34: 634 62A 62B 62E 1EE39: 636 1EE3B:",
   "63A 1EE42: 62C 1EE47: 62D 1EE49: 64A 1EE4B: 644 1EE4D: 646 633 639 1EE51: 635 642 1EE54:",
   "634 1EE57: 62E 1EE59: 636 1EE5B: 63A 1EE5D: 6BA 1EE5F: 66F 1EE61: 628 62C 1EE64: 647",
   "1EE67: 62D 637 64A 643 1EE6C: 645 646 633 639 641 635 642 1EE74: 634 62A 62B 62E 1EE79:",
   "636 638 63A 66E 1EE7E: 6A1 1EE80: 627 628 62C 62F 647 648 632 62D 637 64A 1EE8B: 644 645",
   "646 633 639 641 635 642 631 634 62A 62B 62E 630 636 638 63A 1EEA1: 628 62C 62F 1EEA5: 648",
   "632 62D 637 64A 1EEAB: 644 645 646 633 639 641 635 642 631 634 62A 62B 62E 630 636 638 63A",
   "1FBF0: 30 31 32 33 34 35 36 37 38 39 2F800: 4E3D 4E38 4E41 20122 4F60 4FAE 4FBB 5002 507A",
   "5099 50E7 50CF 349E 2063A 514D 5154 5164 5177 2051C 34B9 5167 518D 2054B 5197 51A4 4ECC",
   "51AC 51B5 291DF 51F5 5203 34DF 523B 5246 5272 5277 3515 52C7 52C9 52E4 52FA 5305 5306 5317",
   "5349 5351 535A 5373 537D 537F 537F 537F 20A2C 7070 53CA 53DF 20B63 53EB 53F1 5406 549E",
   "5438 5448 5468 54A2 54F6 5510 5553 5563 5584 5584 5599 55AB 55B3 55C2 5716 5606 5717 5651",
   "5674 5207 58EE 57CE 57F4 580D 578B 5832 5831 58AC 214E4 58F2 58F7 5906 591A 5922 5962",
   "216A8 216EA 59EC 5A1B 5A27 59D8 5A66 36EE 36FC 5B08 5B3E 5B3E 219C8 5BC3 5BD8 5BE7 5BF3",
   "21B18 5BFF 5C06 5F53 5C22 3781 5C60 5C6E 5CC0 5C8D 21DE4 5D43 21DE6 5D6E 5D6B 5D7C 5DE1",
   "5DE2 382F 5DFD 5E28 5E3D 5E69 3862 22183 387C 5EB0 5EB3 5EB6 5ECA 2A392 5EFE 22331 22331",
   "8201 5F22 5F22 38C7 232B8 261DA 5F62 5F6B 38E3 5F9A 5FCD 5FD7 5FF9 6081 393A 391C 6094",
   "226D4 60C7 6148 614C 614E 614C 617A 618E 61B2 61A4 61AF 61DE 61F2 61F6 6210 621B 625D 62B1",
   "62D4 6350 22B0C 633D 62FC 6368 6383 63E4 22BF1 6422 63C5 63A9 3A2E 6469 647E 649D 6477",
   "3A6C 654F 656C 2300A 65E3 66F8 6649 3B19 6691 3B08 3AE4 5192 5195 6700 669C 80AD 43D9 6717",
   "671B 6721 675E 6753 233C3 3B49 67FA 6785 6852 6885 2346D 688E 681F 6914 3B9D 6942 69A3",
   "69EA 6AA8 236A3 6ADB 3C18 6B21 238A7 6B54 3C4E 6B72 6B9F 6BBA 6BBB 23A8D 21D0B 23AFA 6C4E",
   "23CBC 6CBF 6CCD 6C67 6D16 6D3E 6D77 6D41 6D69 6D78 6D85 23D1E 6D34 6E2F 6E6E 3D33 6ECB",
   "6EC7 23ED1 6DF9 6F6E 23F5E 23F8E 6FC6 7039 701E 701B 3D96 704A 707D 7077 70AD 20525 7145",
   "24263 719C 243AB 7228 7235 7250 24608 7280 7295 24735 24814 737A 738B 3EAC 73A5 3EB8 3EB8",
   "7447 745C 7471 7485 74CA 3F1B 7524 24C36 753E 24C92 7570 2219F 7610 24FA1 24FB8 25044 3FFC",
   "4008 76F4 250F3 250F2 25119 25133 771E 771F 771F 774A 4039 778B 4046 4096 2541D 784E 788C",
   "78CC 40E3 25626 7956 2569A 256C5 798F 79EB 412F 7A40 7A4A 7A4F 2597C 25AA7 25AA7 7AEE 4202",
   "25BAB 7BC6 7BC9 4227 25C80 7CD2 42A0 7CE8 7CE3 7D00 25F86 7D63 4301 7DC7 7E02 7E45 4334",
   "26228 26247 4359 262D9 7F7A 2633E 7F95 7FFA 8005 264DA 26523 8060 265A8 8070 2335F 43D5",
   "80B2 8103 440B 813E 5AB5 267A7 267B5 23393 2339C 8201 8204 8F9E 446B 8291 828B 829D 52B3",
   "82B1 82B3 82BD 82E6 26B3C 82E5 831D 8363 83AD 8323 83BD 83E7 8457 8353 83CA 83CC 83DC",
   "26C36 26D6B 26CD5 452B 84F1 84F3 8516 273CA 8564 26F2C 455D 4561 26FB1 270D2 456B 8650",
   "865C 8667 8669 86A9 8688 870E 86E2 8779 8728 876B 8786 45D7 87E1 8801 45F9 8860 8863 27667",
   "88D7 88DE 4635 88FA 34BB 278AE 27966 46BE 46C7 8AA0 8AED 8B8A 8C55 27CA8 8CAB 8CC1 8D1B",
   "8D77 27F2F 20804 8DCB 8DBC 8DF0 208DE 8ED4 8F38 285D2 285ED 9094 90F1 9111 2872E 911B 9238",
   "92D7 92D8 927C 93F9 9415 28BFA 958B 4995 95B7 28D77 49E6 96C3 5DB2 9723 29145 2921A 4A6E",
   "4A76 97E0 2940A 4AB2 29496 980B 980B 9829 295B6 98E2 4B33 9929 99A7 99C2 99FE 4BCE 29B30",
   "9B12 9C40 9CFD 4CCE 4CED 9D67 2A0CE 4CF8 2A105 2A20E 2A291 9EBB 4D56 9EF9 9EFE 9F05 9F0F",
   "9F16 9F3B 2A600"]

/-- The pairs that make one character: after the first character and a colon, each second one with
what the two make. -/
def pairTable : List String :=
  ["3C: 338=226E 3D: 338=2260 3E: 338=226F 41: 300=C0 301=C1 302=C2 303=C3 304=100 306=102",
   "307=226 308=C4 309=1EA2 30A=C5 30C=1CD 30F=200 311=202 323=1EA0 325=1E00 328=104 42:",
   "307=1E02 323=1E04 331=1E06 43: 301=106 302=108 307=10A 30C=10C 327=C7 44: 307=1E0A 30C=10E",
   "323=1E0C 327=1E10 32D=1E12 331=1E0E 45: 300=C8 301=C9 302=CA 303=1EBC 304=112 306=114",
   "307=116 308=CB 309=1EBA 30C=11A 30F=204 311=206 323=1EB8 327=228 328=118 32D=1E18 330=1E1A",
   "46: 307=1E1E 47: 301=1F4 302=11C 304=1E20 306=11E 307=120 30C=1E6 327=122 48: 302=124",
   "307=1E22 308=1E26 30C=21E 323=1E24 327=1E28 32E=1E2A 49: 300=CC 301=CD 302=CE 303=128",
   "304=12A 306=12C 307=130 308=CF 309=1EC8 30C=1CF 30F=208 311=20A 323=1ECA 328=12E 330=1E2C",
   "4A: 302=134 4B: 301=1E30 30C=1E8 323=1E32 327=136 331=1E34 4C: 301=139 30C=13D 323=1E36",
   "327=13B 32D=1E3C 331=1E3A 4D: 301=1E3E 307=1E40 323=1E42 4E: 300=1F8 301=143 303=D1",
   "307=1E44 30C=147 323=1E46 327=145 32D=1E4A 331=1E48 4F: 300=D2 301=D3 302=D4 303=D5",
   "304=14C 306=14E 307=22E 308=D6 309=1ECE 30B=150 30C=1D1 30F=20C 311=20E 31B=1A0 323=1ECC",
   "328=1EA 50: 301=1E54 307=1E56 52: 301=154 307=1E58 30C=158 30F=210 311=212 323=1E5A",
   "327=156 331=1E5E 53: 301=15A 302=15C 307=1E60 30C=160 323=1E62 326=218 327=15E 54:",
   "307=1E6A 30C=164 323=1E6C 326=21A 327=162 32D=1E70 331=1E6E 55: 300=D9 301=DA 302=DB",
   "303=168 304=16A 306=16C 308=DC 309=1EE6 30A=16E 30B=170 30C=1D3 30F=214 311=216 31B=1AF",
   "323=1EE4 324=1E72 328=172 32D=1E76 330=1E74 56: 303=1E7C 323=1E7E 57: 300=1E80 301=1E82",
   "302=174 307=1E86 308=1E84 323=1E88 58: 307=1E8A 308=1E8C 59: 300=1EF2 301=DD 302=176",
   "303=1EF8 304=232 307=1E8E 308=178 309=1EF6 323=1EF4 5A: 301=179 302=1E90 307=17B 30C=17D",
   "323=1E92 331=1E94 61: 300=E0 301=E1 302=E2 303=E3 304=101 306=103 307=227 308=E4 309=1EA3",
   "30A=E5 30C=1CE 30F=201 311=203 323=1EA1 325=1E01 328=105 62: 307=1E03 323=1E05 331=1E07",
   "63: 301=107 302=109 307=10B 30C=10D 327=E7 64: 307=1E0B 30C=10F 323=1E0D 327=1E11 32D=1E13",
   "331=1E0F 65: 300=E8 301=E9 302=EA 303=1EBD 304=113 306=115 307=117 308=EB 309=1EBB 30C=11B",
   "30F=205 311=207 323=1EB9 327=229 328=119 32D=1E19 330=1E1B 66: 307=1E1F 67: 301=1F5",
   "302=11D 304=1E21 306=11F 307=121 30C=1E7 327=123 68: 302=125 307=1E23 308=1E27 30C=21F",
   "323=1E25 327=1E29 32E=1E2B 331=1E96 69: 300=EC 301=ED 302=EE 303=129 304=12B 306=12D",
   "308=EF 309=1EC9 30C=1D0 30F=209 311=20B 323=1ECB 328=12F 330=1E2D 6A: 302=135 30C=1F0 6B:",
   "301=1E31 30C=1E9 323=1E33 327=137 331=1E35 6C: 301=13A 30C=13E 323=1E37 327=13C 32D=1E3D",
   "331=1E3B 6D: 301=1E3F 307=1E41 323=1E43 6E: 300=1F9 301=144 303=F1 307=1E45 30C=148",
   "323=1E47 327=146 32D=1E4B 331=1E49 6F: 300=F2 301=F3 302=F4 303=F5 304=14D 306=14F 307=22F",
   "308=F6 309=1ECF 30B=151 30C=1D2 30F=20D 311=20F 31B=1A1 323=1ECD 328=1EB 70: 301=1E55",
   "307=1E57 72: 301=155 307=1E59 30C=159 30F=211 311=213 323=1E5B 327=157 331=1E5F 73:",
   "301=15B 302=15D 307=1E61 30C=161 323=1E63 326=219 327=15F 74: 307=1E6B 308=1E97 30C=165",
   "323=1E6D 326=21B 327=163 32D=1E71 331=1E6F 75: 300=F9 301=FA 302=FB 303=169 304=16B",
   "306=16D 308=FC 309=1EE7 30A=16F 30B=171 30C=1D4 30F=215 311=217 31B=1B0 323=1EE5 324=1E73",
   "328=173 32D=1E77 330=1E75 76: 303=1E7D 323=1E7F 77: 300=1E81 301=1E83 302=175 307=1E87",
   "308=1E85 30A=1E98 323=1E89 78: 307=1E8B 308=1E8D 79: 300=1EF3 301=FD 302=177 303=1EF9",
   "304=233 307=1E8F 308=FF 309=1EF7 30A=1E99 323=1EF5 7A: 301=17A 302=1E91 307=17C 30C=17E",
   "323=1E93 331=1E95 A8: 300=1FED 301=385 342=1FC1 C2: 300=1EA6 301=1EA4 303=1EAA 309=1EA8",
   "C4: 304=1DE C5: 301=1FA C6: 301=1FC 304=1E2 C7: 301=1E08 CA: 300=1EC0 301=1EBE 303=1EC4",
   "309=1EC2 CF: 301=1E2E D4: 300=1ED2 301=1ED0 303=1ED6 309=1ED4 D5: 301=1E4C 304=22C",
   "308=1E4E D6: 304=22A D8: 301=1FE DC: 300=1DB 301=1D7 304=1D5 30C=1D9 E2: 300=1EA7 301=1EA5",
   "303=1EAB 309=1EA9 E4: 304=1DF E5: 301=1FB E6: 301=1FD 304=1E3 E7: 301=1E09 EA: 300=1EC1",
   "301=1EBF 303=1EC5 309=1EC3 EF: 301=1E2F F4: 300=1ED3 301=1ED1 303=1ED7 309=1ED5 F5:",
   "301=1E4D 304=22D 308=1E4F F6: 304=22B F8: 301=1FF FC: 300=1DC 301=1D8 304=1D6 30C=1DA 102:",
   "300=1EB0 301=1EAE 303=1EB4 309=1EB2 103: 300=1EB1 301=1EAF 303=1EB5 309=1EB3 112: 300=1E14",
   "301=1E16 113: 300=1E15 301=1E17 14C: 300=1E50 301=1E52 14D: 300=1E51 301=1E53 15A:",
   "307=1E64 15B: 307=1E65 160: 307=1E66 161: 307=1E67 168: 301=1E78 169: 301=1E79 16A:",
   "308=1E7A 16B: 308=1E7B 17F: 307=1E9B 1A0: 300=1EDC 301=1EDA 303=1EE0 309=1EDE 323=1EE2",
   "1A1: 300=1EDD 301=1EDB 303=1EE1 309=1EDF 323=1EE3 1AF: 300=1EEA 301=1EE8 303=1EEE 309=1EEC",
   "323=1EF0 1B0: 300=1EEB 301=1EE9 303=1EEF 309=1EED 323=1EF1 1B7: 30C=1EE 1EA: 304=1EC 1EB:",
   "304=1ED 226: 304=1E0 227: 304=1E1 228: 306=1E1C 229: 306=1E1D 22E: 304=230 22F: 304=231",
   "292: 30C=1EF 391: 300=1FBA 301=386 304=1FB9 306=1FB8 313=1F08 314=1F09 345=1FBC 395:",
   "300=1FC8 301=388 313=1F18 314=1F19 397: 300=1FCA 301=389 313=1F28 314=1F29 345=1FCC 399:",
   "300=1FDA 301=38A 304=1FD9 306=1FD8 308=3AA 313=1F38 314=1F39 39F: 300=1FF8 301=38C",
   "313=1F48 314=1F49 3A1: 314=1FEC 3A5: 300=1FEA 301=38E 304=1FE9 306=1FE8 308=3AB 314=1F59",
   "3A9: 300=1FFA 301=38F 313=1F68 314=1F69 345=1FFC 3AC: 345=1FB4 3AE: 345=1FC4 3B1: 300=1F70",
   "301=3AC 304=1FB1 306=1FB0 313=1F00 314=1F01 342=1FB6 345=1FB3 3B5: 300=1F72 301=3AD",
   "313=1F10 314=1F11 3B7: 300=1F74 301=3AE 313=1F20 314=1F21 342=1FC6 345=1FC3 3B9: 300=1F76",
   "301=3AF 304=1FD1 306=1FD0 308=3CA 313=1F30 314=1F31 342=1FD6 3BF: 300=1F78 301=3CC",
   "313=1F40 314=1F41 3C1: 313=1FE4 314=1FE5 3C5: 300=1F7A 301=3CD 304=1FE1 306=1FE0 308=3CB",
   "313=1F50 314=1F51 342=1FE6 3C9: 300=1F7C 301=3CE 313=1F60 314=1F61 342=1FF6 345=1FF3 3CA:",
   "300=1FD2 301=390 342=1FD7 3CB: 300=1FE2 301=3B0 342=1FE7 3CE: 345=1FF4 3D2: 301=3D3",
   "308=3D4 406: 308=407 410: 306=4D0 308=4D2 413: 301=403 415: 300=400 306=4D6 308=401 416:",
   "306=4C1 308=4DC 417: 308=4DE 418: 300=40D 304=4E2 306=419 308=4E4 41A: 301=40C 41E:",
   "308=4E6 423: 304=4EE 306=40E 308=4F0 30B=4F2 427: 308=4F4 42B: 308=4F8 42D: 308=4EC 430:",
   "306=4D1 308=4D3 433: 301=453 435: 300=450 306=4D7 308=451 436: 306=4C2 308=4DD 437:",
   "308=4DF 438: 300=45D 304=4E3 306=439 308=4E5 43A: 301=45C 43E: 308=4E7 443: 304=4EF",
   "306=45E 308=4F1 30B=4F3 447: 308=4F5 44B: 308=4F9 44D: 308=4ED 456: 308=457 474: 30F=476",
   "475: 30F=477 4D8: 308=4DA 4D9: 308=4DB 4E8: 308=4EA 4E9: 308=4EB 627: 653=622 654=623",
   "655=625 648: 654=624 64A: 654=626 6C1: 654=6C2 6D2: 654=6D3 6D5: 654=6C0 928: 93C=929 930:",
   "93C=931 933: 93C=934 9C7: 9BE=9CB 9D7=9CC B47: B3E=B4B B56=B48 B57=B4C B92: BD7=B94 BC6:",
   "BBE=BCA BD7=BCC BC7: BBE=BCB C46: C56=C48 CBF: CD5=CC0 CC6: CC2=CCA CD5=CC7 CD6=CC8 CCA:",
   "CD5=CCB D46: D3E=D4A D57=D4C D47: D3E=D4B DD9: DCA=DDA DCF=DDC DDF=DDE DDC: DCA=DDD 1025:",
   "102E=1026 1B05: 1B35=1B06 1B07: 1B35=1B08 1B09: 1B35=1B0A 1B0B: 1B35=1B0C 1B0D: 1B35=1B0E",
   "1B11: 1B35=1B12 1B3A: 1B35=1B3B 1B3C: 1B35=1B3D 1B3E: 1B35=1B40 1B3F: 1B35=1B41 1B42:",
   "1B35=1B43 1E36: 304=1E38 1E37: 304=1E39 1E5A: 304=1E5C 1E5B: 304=1E5D 1E62: 307=1E68 1E63:",
   "307=1E69 1EA0: 302=1EAC 306=1EB6 1EA1: 302=1EAD 306=1EB7 1EB8: 302=1EC6 1EB9: 302=1EC7",
   "1ECC: 302=1ED8 1ECD: 302=1ED9 1F00: 300=1F02 301=1F04 342=1F06 345=1F80 1F01: 300=1F03",
   "301=1F05 342=1F07 345=1F81 1F02: 345=1F82 1F03: 345=1F83 1F04: 345=1F84 1F05: 345=1F85",
   "1F06: 345=1F86 1F07: 345=1F87 1F08: 300=1F0A 301=1F0C 342=1F0E 345=1F88 1F09: 300=1F0B",
   "301=1F0D 342=1F0F 345=1F89 1F0A: 345=1F8A 1F0B: 345=1F8B 1F0C: 345=1F8C 1F0D: 345=1F8D",
   "1F0E: 345=1F8E 1F0F: 345=1F8F 1F10: 300=1F12 301=1F14 1F11: 300=1F13 301=1F15 1F18:",
   "300=1F1A 301=1F1C 1F19: 300=1F1B 301=1F1D 1F20: 300=1F22 301=1F24 342=1F26 345=1F90 1F21:",
   "300=1F23 301=1F25 342=1F27 345=1F91 1F22: 345=1F92 1F23: 345=1F93 1F24: 345=1F94 1F25:",
   "345=1F95 1F26: 345=1F96 1F27: 345=1F97 1F28: 300=1F2A 301=1F2C 342=1F2E 345=1F98 1F29:",
   "300=1F2B 301=1F2D 342=1F2F 345=1F99 1F2A: 345=1F9A 1F2B: 345=1F9B 1F2C: 345=1F9C 1F2D:",
   "345=1F9D 1F2E: 345=1F9E 1F2F: 345=1F9F 1F30: 300=1F32 301=1F34 342=1F36 1F31: 300=1F33",
   "301=1F35 342=1F37 1F38: 300=1F3A 301=1F3C 342=1F3E 1F39: 300=1F3B 301=1F3D 342=1F3F 1F40:",
   "300=1F42 301=1F44 1F41: 300=1F43 301=1F45 1F48: 300=1F4A 301=1F4C 1F49: 300=1F4B 301=1F4D",
   "1F50: 300=1F52 301=1F54 342=1F56 1F51: 300=1F53 301=1F55 342=1F57 1F59: 300=1F5B 301=1F5D",
   "342=1F5F 1F60: 300=1F62 301=1F64 342=1F66 345=1FA0 1F61: 300=1F63 301=1F65 342=1F67",
   "345=1FA1 1F62: 345=1FA2 1F63: 345=1FA3 1F64: 345=1FA4 1F65: 345=1FA5 1F66: 345=1FA6 1F67:",
   "345=1FA7 1F68: 300=1F6A 301=1F6C 342=1F6E 345=1FA8 1F69: 300=1F6B 301=1F6D 342=1F6F",
   "345=1FA9 1F6A: 345=1FAA 1F6B: 345=1FAB 1F6C: 345=1FAC 1F6D: 345=1FAD 1F6E: 345=1FAE 1F6F:",
   "345=1FAF 1F70: 345=1FB2 1F74: 345=1FC2 1F7C: 345=1FF2 1FB6: 345=1FB7 1FBF: 300=1FCD",
   "301=1FCE 342=1FCF 1FC6: 345=1FC7 1FF6: 345=1FF7 1FFE: 300=1FDD 301=1FDE 342=1FDF 2190:",
   "338=219A 2192: 338=219B 2194: 338=21AE 21D0: 338=21CD 21D2: 338=21CF 21D4: 338=21CE 2203:",
   "338=2204 2208: 338=2209 220B: 338=220C 2223: 338=2224 2225: 338=2226 223C: 338=2241 2243:",
   "338=2244 2245: 338=2247 2248: 338=2249 224D: 338=226D 2261: 338=2262 2264: 338=2270 2265:",
   "338=2271 2272: 338=2274 2273: 338=2275 2276: 338=2278 2277: 338=2279 227A: 338=2280 227B:",
   "338=2281 227C: 338=22E0 227D: 338=22E1 2282: 338=2284 2283: 338=2285 2286: 338=2288 2287:",
   "338=2289 2291: 338=22E2 2292: 338=22E3 22A2: 338=22AC 22A8: 338=22AD 22A9: 338=22AE 22AB:",
   "338=22AF 22B2: 338=22EA 22B3: 338=22EB 22B4: 338=22EC 22B5: 338=22ED 3046: 3099=3094 304B:",
   "3099=304C 304D: 3099=304E 304F: 3099=3050 3051: 3099=3052 3053: 3099=3054 3055: 3099=3056",
   "3057: 3099=3058 3059: 3099=305A 305B: 3099=305C 305D: 3099=305E 305F: 3099=3060 3061:",
   "3099=3062 3064: 3099=3065 3066: 3099=3067 3068: 3099=3069 306F: 3099=3070 309A=3071 3072:",
   "3099=3073 309A=3074 3075: 3099=3076 309A=3077 3078: 3099=3079 309A=307A 307B: 3099=307C",
   "309A=307D 309D: 3099=309E 30A6: 3099=30F4 30AB: 3099=30AC 30AD: 3099=30AE 30AF: 3099=30B0",
   "30B1: 3099=30B2 30B3: 3099=30B4 30B5: 3099=30B6 30B7: 3099=30B8 30B9: 3099=30BA 30BB:",
   "3099=30BC 30BD: 3099=30BE 30BF: 3099=30C0 30C1: 3099=30C2 30C4: 3099=30C5 30C6: 3099=30C7",
   "30C8: 3099=30C9 30CF: 3099=30D0 309A=30D1 30D2: 3099=30D3 309A=30D4 30D5: 3099=30D6",
   "309A=30D7 30D8: 3099=30D9 309A=30DA 30DB: 3099=30DC 309A=30DD 30EF: 3099=30F7 30F0:",
   "3099=30F8 30F1: 3099=30F9 30F2: 3099=30FA 30FD: 3099=30FE 11099: 110BA=1109A 1109B:",
   "110BA=1109C 110A5: 110BA=110AB 11131: 11127=1112E 11132: 11127=1112F 11347: 1133E=1134B",
   "11357=1134C 114B9: 114B0=114BC 114BA=114BB 114BD=114BE 115B8: 115AF=115BA 115B9:",
   "115AF=115BB 11935: 11930=11938"]

/-- The classes of marks, in base 10: after a class and a colon, the spans of its marks. -/
def classTable : List String :=
  ["1: 334-338 1CD4 1CE2-1CE8 20D2-20D3 20D8-20DA 20E5-20E6 20EA-20EB 10A39 16AF0-16AF4 1BC9E",
   "1D167-1D169 6: 16FF0-16FF1 7: 93C 9BC A3C ABC B3C C3C CBC 1037 1B34 1BE6 1C37 A9B3 110BA",
   "11173 111CA 11236 112E9 1133B-1133C 11446 114C3 115C0 116B7 1183A 11943 11D42 1E94A 8:",
   "3099-309A 9: 94D 9CD A4D ACD B4D BCD C4D CCD D3B-D3C D4D DCA E3A EBA F84 1039-103A",
   "1714-1715 1734 17D2 1A60 1B44 1BAA-1BAB 1BF2-1BF3 2D7F A806 A82C A8C4 A953 A9C0 AAF6 ABED",
   "10A3F 11046 11070 1107F 110B9 11133-11134 111C0 11235 112EA 1134D 11442 114C2 115BF 1163F",
   "116B6 1172B 11839 1193D-1193E 119E0 11A34 11A47 11A99 11C3F 11D44-11D45 11D97 10: 5B0 11:",
   "5B1 12: 5B2 13: 5B3 14: 5B4 15: 5B5 16: 5B6 17: 5B7 18: 5B8 5C7 19: 5B9-5BA 20: 5BB 21:",
   "5BC 22: 5BD 23: 5BF 24: 5C1 25: 5C2 26: FB1E 27: 64B 8F0 28: 64C 8F1 29: 64D 8F2 30: 618",
   "64E 31: 619 64F 32: 61A 650 33: 651 34: 652 35: 670 36: 711 84: C55 91: C56 103: E38-E39",
   "107: E48-E4B 118: EB8-EB9 122: EC8-ECB 129: F71 130: F72 F7A-F7D F80 132: F74 202: 321-322",
   "327-328 1DD0 214: 1DCE 216: 31B F39 1D165-1D166 1D16E-1D172 218: 1DFA 302A 220: 316-319",
   "31C-320 323-326 329-333 339-33C 347-349 34D-34E 353-356 359-35A 591 596 59B 5A2-5A7 5AA",
   "5C5 655-656 65C 65F 6E3 6EA 6ED 731 734 737-739 73B-73C 73E 742 744 746 748 7F2 7FD",
   "859-85B 899-89B 8CF-8D3 8E3 8E6 8E9 8ED-8EF 8F6 8F9-8FA 952 F18-F19 F35 F37 FC6 108D 193B",
   "1A18 1A7F 1AB5-1ABA 1ABD 1ABF-1AC0 1AC3-1AC4 1ACA 1B6C 1CD5-1CD9 1CDC-1CDF 1CED 1DC2 1DCA",
   "1DCF 1DF9 1DFD 1DFF 20E8 20EC-20EF A92B-A92D AAB4 FE27-FE2D 101FD 102E0 10A0D 10A3A 10AE6",
   "10F46-10F47 10F4B 10F4D-10F50 10F83 10F85 1D17B-1D182 1D18A-1D18B 1E8D0-1E8D6 222: 59A 5AD",
   "1939 302D 224: 302E-302F 226: 1D16D 228: 5AE 18A9 1DF7-1DF8 302B 230: 300-314 33D-344 346",
   "34A-34C 350-352 357 35B 363-36F 483-487 592-595 597-599 59C-5A1 5A8-5A9 5AB-5AC 5AF 5C4",
   "610-617 653-654 657-65B 65D-65E 6D6-6DC 6DF-6E2 6E4 6E7-6E8 6EB-6EC 730 732-733 735-736",
   "73A 73D 73F-741 743 745 747 749-74A 7EB-7F1 7F3 816-819 81B-823 825-827 829-82D 898",
   "89C-89F 8CA-8CE 8D4-8E1 8E4-8E5 8E7-8E8 8EA-8EC 8F3-8F5 8F7-8F8 8FB-8FF 951 953-954 9FE",
   "F82-F83 F86-F87 135D-135F 17DD 193A 1A17 1A75-1A7C 1AB0-1AB4 1ABB-1ABC 1AC1-1AC2 1AC5-1AC9",
   "1ACB-1ACE 1B6B 1B6D-1B73 1CD0-1CD2 1CDA-1CDB 1CE0 1CF4 1CF8-1CF9 1DC0-1DC1 1DC3-1DC9",
   "1DCB-1DCC 1DD1-1DF5 1DFB 1DFE 20D0-20D1 20D4-20D7 20DB-20DC 20E1 20E7 20E9 20F0 2CEF-2CF1",
   "2DE0-2DFF A66F A674-A67D A69E-A69F A6F0-A6F1 A8E0-A8F1 AAB0 AAB2-AAB3 AAB7-AAB8 AABE-AABF",
   "AAC1 FE20-FE26 FE2E-FE2F 10376-1037A 10A0F 10A38 10AE5 10D24-10D27 10EAB-10EAC 10F48-10F4A",
   "10F4C 10F82 10F84 11100-11102 11366-1136C 11370-11374 1145E 16B30-16B36 1D185-1D189",
   "1D1AA-1D1AD 1D242-1D244 1E000-1E006 1E008-1E018 1E01B-1E021 1E023-1E024 1E026-1E02A",
   "1E130-1E136 1E2AE 1E2EC-1E2EF 1E944-1E949 232: 315 31A 358 1DF6 302C 233: 35C 35F 362 1DFC",
   "234: 35D-35E 360-361 1DCD 240: 345"]

end Conduit.Text.Normal
