/-
  RoomSync.Unicode.Mark
  ─────────────────────
  **MARKS.**

  A mark is written upon the character before it.  The class of a mark says
  where it stands there; marks of different classes do not touch, so their
  order does not matter, and class zero is that of characters of their own.
-/
import RoomSync.Unicode.Ranges

namespace RoomSync.Unicode

namespace Mark

def marksText : String := "
300:1 371:0 483:1 48b:0 591:1 5be:0 5bf:1 5c0:0 5c1:1 5c3:0 5c4:1 5c6:0 5c7:1 5d0:0 610:1 61b:0
64b:1 660:0 670:1 671:0 6d6:1 6de:0 6df:1 6e5:0 6e7:1 6e9:0 6ea:1 6ee:0 711:1 712:0 730:1 74d:0
7a6:1 7b1:0 7eb:1 7f4:0 7fd:1 7fe:0 816:1 81a:0 81b:1 824:0 825:1 828:0 829:1 830:0 859:1 85e:0
897:1 8a0:0 8ca:1 904:0 93a:1 93d:0 93e:1 950:0 951:1 960:0 962:1 964:0 981:1 985:0 9bc:1 9bd:0
9be:1 9ce:0 9d7:1 9e0:0 9e2:1 9e6:0 9fe:1 a05:0 a3c:1 a5c:0 a70:1 a72:0 a75:1 a76:0 a81:1 a85:0
abc:1 abd:0 abe:1 ad0:0 ae2:1 ae6:0 afa:1 b05:0 b3c:1 b3d:0 b3e:1 b5f:0 b62:1 b66:0 b82:1 b83:0
bbe:1 bd0:0 bd7:1 be6:0 c00:1 c05:0 c3c:1 c3d:0 c3e:1 c58:0 c62:1 c66:0 c81:1 c84:0 cbc:1 cbd:0
cbe:1 cdc:0 ce2:1 ce6:0 cf3:1 d04:0 d3b:1 d3d:0 d3e:1 d4e:0 d57:1 d58:0 d62:1 d66:0 d81:1 d85:0
dca:1 de6:0 df2:1 df4:0 e31:1 e32:0 e34:1 e3f:0 e47:1 e4f:0 eb1:1 eb2:0 eb4:1 ebd:0 ec8:1 ed0:0
f18:1 f1a:0 f35:1 f36:0 f37:1 f38:0 f39:1 f3a:0 f3e:1 f40:0 f71:1 f85:0 f86:1 f88:0 f8d:1 fbe:0
fc6:1 fc7:0 102b:1 103f:0 1056:1 105a:0 105e:1 1061:0 1062:1 1065:0 1067:1 106e:0 1071:1 1075:0
1082:1 108e:0 108f:1 1090:0 109a:1 109e:0 135d:1 1360:0 1712:1 171f:0 1732:1 1735:0 1752:1
1760:0 1772:1 1780:0 17b6:1 17d4:0 17dd:1 17e0:0 1885:1 1887:0 18a9:1 18aa:0 1920:1 1940:0
1a17:1 1a1e:0 1a55:1 1a80:0 1ab0:1 1b05:0 1b34:1 1b45:0 1b6b:1 1b74:0 1b80:1 1b83:0 1ba1:1
1bae:0 1be6:1 1bfc:0 1c24:1 1c3b:0 1cd0:1 1cd3:0 1cd4:1 1ce9:0 1ced:1 1cee:0 1cf4:1 1cf5:0
1cf7:1 1cfa:0 1dc0:1 1e01:0 20d0:1 2104:0 2cef:1 2cf3:0 2d7f:1 2d80:0 2de0:1 2e00:0 302a:1
3030:0 3099:1 309d:0 a66f:1 a673:0 a674:1 a67e:0 a69e:1 a6a0:0 a6f0:1 a6f2:0 a802:1 a803:0
a806:1 a807:0 a80b:1 a80c:0 a823:1 a828:0 a82c:1 a830:0 a880:1 a882:0 a8b4:1 a8ce:0 a8e0:1
a8f2:0 a8ff:1 a900:0 a926:1 a92e:0 a947:1 a95f:0 a980:1 a984:0 a9b3:1 a9c1:0 a9e5:1 a9e6:0
aa29:1 aa40:0 aa43:1 aa44:0 aa4c:1 aa50:0 aa7b:1 aa7e:0 aab0:1 aab1:0 aab2:1 aab5:0 aab7:1
aab9:0 aabe:1 aac0:0 aac1:1 aac2:0 aaeb:1 aaf0:0 aaf5:1 ab01:0 abe3:1 abeb:0 abec:1 abf0:0
fb1e:1 fbb2:0 fe20:1 fe45:0 101fd:1 10280:0 102e0:1 102e1:0 10376:1 10380:0 10a01:1 10a10:0
10a38:1 10a40:0 10ae5:1 10aeb:0 10d24:1 10d30:0 10d69:1 10d6e:0 10eab:1 10ead:0 10efa:1 10f00:0
10f46:1 10f51:0 10f82:1 10f86:0 11000:1 11003:0 11038:1 11047:0 11070:1 11071:0 11073:1 11075:0
1107f:1 11083:0 110b0:1 110bb:0 110c2:1 110d0:0 11100:1 11103:0 11127:1 11136:0 11145:1 11147:0
11173:1 11174:0 11180:1 11183:0 111b3:1 111c1:0 111c9:1 111cd:0 111ce:1 111d0:0 1122c:1 11238:0
1123e:1 1123f:0 11241:1 11280:0 112df:1 112f0:0 11300:1 11305:0 1133b:1 1133d:0 1133e:1 11350:0
11357:1 1135d:0 11362:1 11380:0 113b8:1 113d1:0 113d2:1 113d3:0 113e1:1 11400:0 11435:1 11447:0
1145e:1 1145f:0 114b0:1 114c4:0 115af:1 115c1:0 115dc:1 11600:0 11630:1 11641:0 116ab:1 116b8:0
1171d:1 11730:0 1182c:1 1183b:0 11930:1 1193f:0 11940:1 11941:0 11942:1 11944:0 119d1:1 119e1:0
119e4:1 11a00:0 11a01:1 11a0b:0 11a33:1 11a3a:0 11a3b:1 11a3f:0 11a47:1 11a50:0 11a51:1 11a5c:0
11a8a:1 11a9a:0 11b60:1 11bc0:0 11c2f:1 11c40:0 11c92:1 11d00:0 11d31:1 11d46:0 11d47:1 11d50:0
11d8a:1 11d98:0 11ef3:1 11ef7:0 11f00:1 11f02:0 11f03:1 11f04:0 11f34:1 11f43:0 11f5a:1 11fb0:0
13440:1 13441:0 13447:1 13460:0 1611e:1 16130:0 16af0:1 16af5:0 16b30:1 16b37:0 16f4f:1 16f50:0
16f51:1 16f93:0 16fe4:1 16ff2:0 1bc9d:1 1bc9f:0 1cf00:1 1cf50:0 1d165:1 1d16a:0 1d16d:1 1d183:0
1d185:1 1d18c:0 1d1aa:1 1d1ae:0 1d242:1 1d245:0 1da00:1 1da37:0 1da3b:1 1da6d:0 1da75:1 1da76:0
1da84:1 1da85:0 1da9b:1 1df00:0 1e000:1 1e100:0 1e130:1 1e137:0 1e2ae:1 1e2c0:0 1e2ec:1 1e2f0:0
1e4ec:1 1e4f0:0 1e5ee:1 1e5f0:0 1e6e3:1 1e6e4:0 1e6e6:1 1e6e7:0 1e6ee:1 1e6f0:0 1e6f5:1 1e6fe:0
1e8d0:1 1e922:0 1e944:1 1e94b:0
"

/-- Where marks begin (1) and end (0). -/
def marks : Ranges Bool := Ranges.ofText (· == ['1']) marksText

def classesText : String := "
300:230 315:232 316:220 31a:232 31b:216 31c:220 321:202 323:220 327:202 329:220 334:1 339:220
33d:230 347:220 34a:230 34d:220 350:230 353:220 357:230 358:232 359:220 35b:230 35c:233 35d:234
35f:233 360:234 362:233 363:230 371:0 483:230 488:0 591:220 592:230 596:220 597:230 59a:222
59b:220 59c:230 5a2:220 5a8:230 5aa:220 5ab:230 5ad:222 5ae:228 5af:230 5b0:10 5b1:11 5b2:12
5b3:13 5b4:14 5b5:15 5b6:16 5b7:17 5b8:18 5b9:19 5bb:20 5bc:21 5bd:22 5be:0 5bf:23 5c0:0 5c1:24
5c2:25 5c3:0 5c4:230 5c5:220 5c6:0 5c7:18 5d0:0 610:230 618:30 619:31 61a:32 61b:0 64b:27 64c:28
64d:29 64e:30 64f:31 650:32 651:33 652:34 653:230 655:220 657:230 65c:220 65d:230 65f:220 660:0
670:35 671:0 6d6:230 6de:0 6df:230 6e3:220 6e4:230 6e5:0 6e7:230 6e9:0 6ea:220 6eb:230 6ed:220
6ee:0 711:36 712:0 730:230 731:220 732:230 734:220 735:230 737:220 73a:230 73b:220 73d:230
73e:220 73f:230 742:220 743:230 744:220 745:230 746:220 747:230 748:220 749:230 74d:0 7eb:230
7f2:220 7f3:230 7f4:0 7fd:220 7fe:0 816:230 81a:0 81b:230 824:0 825:230 828:0 829:230 830:0
859:220 85e:0 897:230 899:220 89c:230 8a0:0 8ca:230 8cf:220 8d4:230 8e3:220 8e4:230 8e6:220
8e7:230 8e9:220 8ea:230 8ed:220 8f0:27 8f1:28 8f2:29 8f3:230 8f6:220 8f7:230 8f9:220 8fb:230
900:0 93c:7 93d:0 94d:9 94e:0 951:230 952:220 953:230 955:0 9bc:7 9bd:0 9cd:9 9ce:0 9fe:230
a01:0 a3c:7 a3e:0 a4d:9 a51:0 abc:7 abd:0 acd:9 ad0:0 b3c:7 b3d:0 b4d:9 b55:0 bcd:9 bd0:0 c3c:7
c3d:0 c4d:9 c55:84 c56:91 c58:0 cbc:7 cbd:0 ccd:9 cd5:0 d3b:9 d3d:0 d4d:9 d4e:0 dca:9 dcf:0
e38:103 e3a:9 e3f:0 e48:107 e4c:0 eb8:118 eba:9 ebb:0 ec8:122 ecc:0 f18:220 f1a:0 f35:220 f36:0
f37:220 f38:0 f39:216 f3a:0 f71:129 f72:130 f74:132 f7a:130 f7e:0 f80:130 f82:230 f84:9 f85:0
f86:230 f88:0 fc6:220 fc7:0 1037:7 1038:0 1039:9 103b:0 108d:220 108e:0 135d:230 1360:0 1714:9
171f:0 1734:9 1735:0 17d2:9 17d3:0 17dd:230 17e0:0 18a9:228 18aa:0 1939:222 193a:230 193b:220
1940:0 1a17:230 1a18:220 1a19:0 1a60:9 1a61:0 1a75:230 1a7f:220 1a80:0 1ab0:230 1ab5:220
1abb:230 1abd:220 1abe:0 1abf:220 1ac1:230 1ac3:220 1ac5:230 1aca:220 1acb:230 1add:220 1ae0:230
1ae6:220 1ae7:230 1aeb:234 1b00:0 1b34:7 1b35:0 1b44:9 1b45:0 1b6b:230 1b6c:220 1b6d:230 1b74:0
1baa:9 1bac:0 1be6:7 1be7:0 1bf2:9 1bfc:0 1c37:7 1c3b:0 1cd0:230 1cd3:0 1cd4:1 1cd5:220 1cda:230
1cdc:220 1ce0:230 1ce1:0 1ce2:1 1ce9:0 1ced:220 1cee:0 1cf4:230 1cf5:0 1cf8:230 1cfa:0 1dc0:230
1dc2:220 1dc3:230 1dca:220 1dcb:230 1dcd:234 1dce:214 1dcf:220 1dd0:202 1dd1:230 1df6:232
1df7:228 1df9:220 1dfa:218 1dfb:230 1dfc:233 1dfd:220 1dfe:230 1dff:220 1e01:0 20d0:230 20d2:1
20d4:230 20d8:1 20db:230 20dd:0 20e1:230 20e2:0 20e5:1 20e7:230 20e8:220 20e9:230 20ea:1
20ec:220 20f0:230 2104:0 2cef:230 2cf3:0 2d7f:9 2d80:0 2de0:230 2e00:0 302a:218 302b:228
302c:232 302d:222 302e:224 3030:0 3099:8 309d:0 a66f:230 a670:0 a674:230 a67e:0 a69e:230 a6a0:0
a6f0:230 a6f2:0 a806:9 a807:0 a82c:9 a830:0 a8c4:9 a8c5:0 a8e0:230 a8f2:0 a92b:220 a92e:0 a953:9
a95f:0 a9b3:7 a9b4:0 a9c0:9 a9c1:0 aab0:230 aab1:0 aab2:230 aab4:220 aab5:0 aab7:230 aab9:0
aabe:230 aac0:0 aac1:230 aac2:0 aaf6:9 ab01:0 abed:9 abf0:0 fb1e:26 fbb2:0 fe20:230 fe27:220
fe2e:230 fe45:0 101fd:220 10280:0 102e0:220 102e1:0 10376:230 10380:0 10a0d:220 10a0e:0
10a0f:230 10a10:0 10a38:230 10a39:1 10a3a:220 10a3f:9 10a40:0 10ae5:230 10ae6:220 10aeb:0
10d24:230 10d30:0 10d69:230 10d6e:0 10eab:230 10ead:0 10efa:220 10efc:0 10efd:220 10f00:0
10f46:220 10f48:230 10f4b:220 10f4c:230 10f4d:220 10f51:0 10f82:230 10f83:220 10f84:230
10f85:220 10f86:0 11046:9 11047:0 11070:9 11071:0 1107f:9 11080:0 110b9:9 110ba:7 110bb:0
11100:230 11103:0 11133:9 11136:0 11173:7 11174:0 111c0:9 111c1:0 111ca:7 111cb:0 11235:9
11236:7 11237:0 112e9:7 112ea:9 112f0:0 1133b:7 1133d:0 1134d:9 11350:0 11366:230 11380:0
113ce:9 113d1:0 11442:9 11443:0 11446:7 11447:0 1145e:230 1145f:0 114c2:9 114c3:7 114c4:0
115bf:9 115c0:7 115c1:0 1163f:9 11640:0 116b6:9 116b7:7 116b8:0 1172b:9 11730:0 11839:9 1183a:7
1183b:0 1193d:9 1193f:0 11943:7 11944:0 119e0:9 119e1:0 11a34:9 11a35:0 11a47:9 11a50:0 11a99:9
11a9a:0 11c3f:9 11c40:0 11d42:7 11d43:0 11d44:9 11d46:0 11d97:9 11d98:0 11f41:9 11f43:0 1612f:9
16130:0 16af0:1 16af5:0 16b30:230 16b37:0 16ff0:6 16ff2:0 1bc9e:1 1bc9f:0 1d165:216 1d167:1
1d16a:0 1d16d:226 1d16e:216 1d17b:220 1d183:0 1d185:230 1d18a:220 1d18c:0 1d1aa:230 1d1ae:0
1d242:230 1d245:0 1e000:230 1e100:0 1e130:230 1e137:0 1e2ae:230 1e2c0:0 1e2ec:230 1e2f0:0
1e4ec:232 1e4ee:220 1e4ef:230 1e4f0:0 1e5ee:230 1e5ef:220 1e5f0:0 1e6e3:230 1e6e4:0 1e6e6:230
1e6e7:0 1e6ee:230 1e6f0:0 1e6f5:230 1e6fe:0 1e8d0:220 1e922:0 1e944:230 1e94a:7 1e94b:0
"

/-- The classes of marks, in decimal digits. -/
def classes : Ranges Nat := Ranges.ofText Digits.decimal classesText

end Mark

/-- Whether a character is a mark. -/
def isMark (c : Char) : Bool := (Mark.marks.get? c.toNat).getD false

/-- The class of a mark, and zero for any other character. -/
def markClass (c : Char) : Nat := (Mark.classes.get? c.toNat).getD 0

/-- The class of the marks that take the vowel from a consonant. -/
def viramaClass : Nat := 9

end RoomSync.Unicode
