/-
  RoomSync.Unicode.Direction
  ──────────────────────────
  **DIRECTIONS OF WRITING.**

  Letters are written from left to right or from right to left; digits keep
  their own direction, marks take that of the character below them, and
  signs that of their surroundings.
-/
import RoomSync.Unicode.Ranges

namespace RoomSync.Unicode

inductive Direction where
  | leftToRight
  | rightToLeft
  /-- The digits that stand in Arabic text. -/
  | arabicNumber
  /-- The digits of Europe. -/
  | europeanNumber
  | mark
  /-- Signs, and separators of numbers. -/
  | neutral
  /-- Separators of paragraphs, and blanks. -/
  | boundary
  deriving DecidableEq

namespace Direction

def ofChars : List Char → Direction
  | ['L'] => leftToRight
  | ['R'] => rightToLeft
  | ['A'] => arabicNumber
  | ['E'] => europeanNumber
  | ['N'] => mark
  | ['O'] => neutral
  | _ => boundary

def directionsText : String := "
0:O 9:X e:O 1c:X 21:O 30:E 3a:O 61:L 7b:O df:L f7:O f8:L 2b9:O 2bb:L 2c2:O 2d0:L 2d2:O 2ee:L
2ef:O 300:N 371:L 375:O 377:L 3f6:O 3f8:L 483:N 48b:L 58a:O 591:N 5be:R 5bf:N 5c0:R 5c1:N 5c3:R
5c4:N 5c6:R 5c7:N 5d0:R 606:O 608:R 609:O 60b:R 60c:O 60d:R 60e:O 610:N 61b:R 64b:N 660:A 66a:O
66b:A 66d:R 670:N 671:R 6d6:N 6de:O 6df:N 6e5:R 6e7:N 6e9:O 6ea:N 6ee:R 6f0:E 6fa:R 711:N 712:R
730:N 74d:R 7a6:N 7b1:R 7eb:N 7f4:R 7f6:O 7fa:R 7fd:N 7fe:R 816:N 81a:R 81b:N 824:R 825:N 828:R
829:N 830:R 859:N 85e:R 897:N 8a0:R 8ca:N 903:L 93a:N 93b:L 93c:N 93d:L 941:N 949:L 94d:N 94e:L
951:N 960:L 962:N 964:L 981:N 982:L 9bc:N 9bd:L 9c1:N 9c7:L 9cd:N 9ce:L 9e2:N 9e6:L 9f2:O 9f4:L
9fb:O 9fc:L 9fe:N a03:L a3c:N a3e:L a41:N a5c:L a70:N a72:L a75:N a76:L a81:N a83:L abc:N abd:L
ac1:N ac9:L acd:N ad0:L ae2:N ae6:L af1:O af9:L afa:N b02:L b3c:N b3d:L b3f:N b40:L b41:N b47:L
b4d:N b57:L b62:N b66:L b82:N b83:L bc0:N bc1:L bcd:N bd0:L bf3:O c00:N c01:L c04:N c05:L c3c:N
c3d:L c3e:N c41:L c46:N c58:L c62:N c66:L c78:O c7f:L c81:N c82:L cbc:N cbd:L ccc:N cd5:L ce2:N
ce6:L d00:N d02:L d3b:N d3d:L d41:N d46:L d4d:N d4e:L d62:N d66:L d81:N d82:L dca:N dcf:L dd2:N
dd8:L e31:N e32:L e34:N e3f:O e40:L e47:N e4f:L eb1:N eb2:L eb4:N ebd:L ec8:N ed0:L f18:N f1a:L
f35:N f36:L f37:N f38:L f39:N f3a:O f3e:L f71:N f7f:L f80:N f85:L f86:N f88:L f8d:N fbe:L fc6:N
fc7:L 102d:N 1031:L 1032:N 1038:L 1039:N 103b:L 103d:N 103f:L 1058:N 105a:L 105e:N 1061:L 1071:N
1075:L 1082:N 1083:L 1085:N 1087:L 108d:N 108e:L 109d:N 109e:L 135d:N 1360:L 1390:O 13a0:L
1400:O 1401:L 169b:O 16a0:L 1712:N 1715:L 1732:N 1734:L 1752:N 1760:L 1772:N 1780:L 17b7:N
17be:L 17c6:N 17c7:L 17c9:N 17d4:L 17db:O 17dc:L 17dd:N 17e0:L 17f0:O 1810:L 1885:N 1887:L
18a9:N 18aa:L 1920:N 1923:L 1927:N 1929:L 1932:N 1933:L 1939:N 1940:O 1946:L 19de:O 1a00:L
1a17:N 1a19:L 1a1b:N 1a1e:L 1a56:N 1a57:L 1a58:N 1a61:L 1a62:N 1a63:L 1a65:N 1a6d:L 1a73:N
1a80:L 1ab0:N 1b04:L 1b34:N 1b35:L 1b36:N 1b3b:L 1b3c:N 1b3d:L 1b42:N 1b43:L 1b6b:N 1b74:L
1b80:N 1b82:L 1ba2:N 1ba6:L 1ba8:N 1baa:L 1bab:N 1bae:L 1be6:N 1be7:L 1be8:N 1bea:L 1bed:N
1bee:L 1bef:N 1bf2:L 1c2c:N 1c34:L 1c36:N 1c3b:L 1cd0:N 1cd3:L 1cd4:N 1ce1:L 1ce2:N 1ce9:L
1ced:N 1cee:L 1cf4:N 1cf5:L 1cf8:N 1cfa:L 1dc0:N 1e01:L 200c:O 20d0:N 2104:O 214e:L 218a:O
2336:L 237b:O 2395:L 2396:O 26ac:L 26ad:O 2800:L 2900:O 2c30:L 2ce5:O 2cec:L 2cef:N 2cf3:L
2cf9:O 2d00:L 2d7f:N 2d80:L 2de0:N 2e00:O 3005:L 3008:O 3021:L 302a:N 302e:L 3030:O 3031:L
3037:O 303b:L 303d:O 3041:L 3099:N 309d:L 30a0:O 30a1:L 30fb:O 30fc:L 31c0:O 31f0:L 4dc0:O
4e00:L a490:O a4d0:L a60d:O a610:L a66f:N a673:O a674:N a67e:O a681:L a69e:N a6a0:L a6f0:N
a6f2:L a700:O a723:L a788:O a789:L a802:N a803:L a806:N a807:L a80b:N a80c:L a825:N a827:L
a828:O a82c:N a830:L a838:O a840:L a874:O a880:L a8c4:N a8ce:L a8e0:N a8f2:L a8ff:N a900:L
a926:N a92e:L a947:N a952:L a980:N a983:L a9b3:N a9b4:L a9b6:N a9ba:L a9bc:N a9be:L a9e5:N
a9e6:L aa29:N aa2f:L aa31:N aa33:L aa35:N aa40:L aa43:N aa44:L aa4c:N aa4d:L aa7c:N aa7d:L
aab0:N aab1:L aab2:N aab5:L aab7:N aab9:L aabe:N aac0:L aac1:N aac2:L aaec:N aaee:L aaf6:N
ab01:L ab6a:O abc0:L abe5:N abe6:L abe8:N abe9:L abed:N abf0:L fb1e:N fbb2:R fbc3:O fe20:N
fe45:O fe73:R 10000:L 10101:O 10102:L 10140:O 1018d:L 10190:O 101d0:L 101fd:N 10280:L 102e0:N
102e1:E 10300:L 10376:N 10380:L 10800:R 1091f:O 10920:R 10a01:N 10a10:R 10a38:N 10a40:R 10ae5:N
10aeb:R 10b39:O 10b40:R 10d24:N 10d30:A 10d40:R 10d69:N 10d6e:O 10d6f:R 10e60:A 10e80:R 10eab:N
10ead:R 10ed0:O 10efa:N 10f00:R 10f46:N 10f51:R 10f82:N 10f86:R 11000:L 11001:N 11002:L 11038:N
11047:L 11052:O 11066:L 11070:N 11071:L 11073:N 11075:L 1107f:N 11082:L 110b3:N 110b7:L 110b9:N
110bb:L 110c2:N 110d0:L 11100:N 11103:L 11127:N 1112c:L 1112d:N 11136:L 11173:N 11174:L 11180:N
11182:L 111b6:N 111bf:L 111c9:N 111cd:L 111cf:N 111d0:L 1122f:N 11232:L 11234:N 11235:L 11236:N
11238:L 1123e:N 1123f:L 11241:N 11280:L 112df:N 112e0:L 112e3:N 112f0:L 11300:N 11302:L 1133b:N
1133d:L 11340:N 11341:L 11366:N 11380:L 113bb:N 113c2:L 113ce:N 113cf:L 113d0:N 113d1:L 113d2:N
113d3:L 113e1:N 11400:L 11438:N 11440:L 11442:N 11445:L 11446:N 11447:L 1145e:N 1145f:L 114b3:N
114b9:L 114ba:N 114bb:L 114bf:N 114c1:L 114c2:N 114c4:L 115b2:N 115b8:L 115bc:N 115be:L 115bf:N
115c1:L 115dc:N 11600:L 11633:N 1163b:L 1163d:N 1163e:L 1163f:N 11641:L 11660:O 11680:L 116ab:N
116ac:L 116ad:N 116ae:L 116b0:N 116b6:L 116b7:N 116b8:L 1171d:N 11720:L 11722:N 11726:L 11727:N
11730:L 1182f:N 11838:L 11839:N 1183b:L 1193b:N 1193d:L 1193e:N 1193f:L 11943:N 11944:L 119d4:N
119dc:L 119e0:N 119e1:L 11a01:N 11a07:L 11a09:N 11a0b:L 11a33:N 11a39:L 11a3b:N 11a3f:L 11a47:N
11a50:L 11a51:N 11a57:L 11a59:N 11a5c:L 11a8a:N 11a97:L 11a98:N 11a9a:L 11b60:N 11b61:L 11b62:N
11b65:L 11b66:N 11b67:L 11c30:N 11c3e:L 11c92:N 11ca9:L 11caa:N 11cb1:L 11cb2:N 11cb4:L 11cb5:N
11d00:L 11d31:N 11d46:L 11d47:N 11d50:L 11d90:N 11d93:L 11d95:N 11d96:L 11d97:N 11d98:L 11ef3:N
11ef5:L 11f00:N 11f02:L 11f36:N 11f3e:L 11f40:N 11f41:L 11f42:N 11f43:L 11f5a:N 11fb0:L 11fd5:O
11fff:L 13440:N 13441:L 13447:N 13460:L 1611e:N 1612a:L 1612d:N 16130:L 16af0:N 16af5:L 16b30:N
16b37:L 16f4f:N 16f50:L 16f8f:N 16f93:L 16fe2:O 16fe3:L 16fe4:N 16ff0:L 1bc9d:N 1bc9f:L 1cc00:O
1cf00:N 1cf50:L 1d167:N 1d16a:L 1d17b:N 1d183:L 1d185:N 1d18c:L 1d1aa:N 1d1ae:L 1d1e9:O 1d242:N
1d245:O 1d2c0:L 1d300:O 1d360:L 1da00:N 1da37:L 1da3b:N 1da6d:L 1da75:N 1da76:L 1da84:N 1da85:L
1da9b:N 1df00:L 1e000:N 1e100:L 1e130:N 1e137:L 1e2ae:N 1e2c0:L 1e2ec:N 1e2f0:L 1e2ff:O 1e4d0:L
1e4ec:N 1e4f0:L 1e5ee:N 1e5f0:L 1e6e3:N 1e6e4:L 1e6e6:N 1e6e7:L 1e6ee:N 1e6f0:L 1e6f5:N 1e6fe:L
1e800:R 1e8d0:N 1e922:R 1e944:N 1e94b:R 1eef0:O 1f150:L 1f16d:O 1f170:L 1f1ad:O 1f1e6:L 1f260:O
20000:L
"

/-- The directions of all characters that a name may hold. -/
def directions : Ranges Direction := Ranges.ofText ofChars directionsText

end Direction

def direction (c : Char) : Direction :=
  (Direction.directions.get? c.toNat).getD .leftToRight

end RoomSync.Unicode
