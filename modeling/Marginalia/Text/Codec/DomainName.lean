/-
Names of hosts in every script.

A name is made of labels with dots between.  A label that needs more than the first 128
characters is prepared, so that spellings that look alike agree, and then written in
letters, digits and hyphens behind `xn--`.
-/
import Marginalia.Text.Case
import Marginalia.Text.Codec.Punycode
import Marginalia.Text.Normal
import Marginalia.Text.Search

namespace Marginalia

namespace DomainName

/-- Characters that are left out of labels. -/
def dropped : CodeRanges := CodeRanges.ofText
  "ad 34f 1806 180b-180d 200b-200d 2060 fe00-fe0f feff"

/-- Characters that labels cannot hold. -/
def prohibited : CodeRanges := CodeRanges.ofText
  "80-a0 340-341 6dd 70f 1680 180e 2000-200f 2028-202f 205f-2063 206a-206f 2ff0-2ffb 3000
   e000-f8ff fdd0-fdef feff fff9-ffff 1d173-1d17a 1fffe-1ffff 2fffe-2ffff 3fffe-3ffff 4fffe-4ffff
   5fffe-5ffff 6fffe-6ffff 7fffe-7ffff 8fffe-8ffff 9fffe-9ffff afffe-affff bfffe-bffff
   cfffe-cffff dfffe-dffff e0001 e0020-e007f efffe-10ffff"

/-- Characters written from right to left. -/
def rightToLeft : CodeRanges := CodeRanges.ofText
  "5be 5c0 5c3 5d0-5ea 5f0-5f4 61b 61f 621-63a 640-64a 66d-66f 671-6d5 6dd 6e5-6e6 6fa-6fe
   700-70d 710 712-72c 780-7a5 7b1 200f fb1d fb1f-fb28 fb2a-fb36 fb38-fb3c fb3e fb40-fb41
   fb43-fb44 fb46-fbb1 fbd3-fd3d fd50-fd8f fd92-fdc7 fdf0-fdfc fe70-fe74 fe76-fefc"

/-- Characters written from left to right. -/
def leftToRight : CodeRanges := CodeRanges.ofText
  "41-5a 61-7a aa b5 ba c0-d6 d8-f6 f8-220 222-233 250-2ad 2b0-2b8 2bb-2c1 2d0-2d1 2e0-2e4 2ee
   37a 386 388-38a 38c 38e-3a1 3a3-3ce 3d0-3f5 400-482 48a-4ce 4d0-4f5 4f8-4f9 500-50f 531-556
   559-55f 561-587 589 903 905-939 93d-940 949-94c 950 958-961 964-970 982-983 985-98c 98f-990
   993-9a8 9aa-9b0 9b2 9b6-9b9 9be-9c0 9c7-9c8 9cb-9cc 9d7 9dc-9dd 9df-9e1 9e6-9f1 9f4-9fa
   a05-a0a a0f-a10 a13-a28 a2a-a30 a32-a33 a35-a36 a38-a39 a3e-a40 a59-a5c a5e a66-a6f a72-a74
   a83 a85-a8b a8d a8f-a91 a93-aa8 aaa-ab0 ab2-ab3 ab5-ab9 abd-ac0 ac9 acb-acc ad0 ae0 ae6-aef
   b02-b03 b05-b0c b0f-b10 b13-b28 b2a-b30 b32-b33 b36-b39 b3d-b3e b40 b47-b48 b4b-b4c b57
   b5c-b5d b5f-b61 b66-b70 b83 b85-b8a b8e-b90 b92-b95 b99-b9a b9c b9e-b9f ba3-ba4 ba8-baa
   bae-bb5 bb7-bb9 bbe-bbf bc1-bc2 bc6-bc8 bca-bcc bd7 be7-bf2 c01-c03 c05-c0c c0e-c10 c12-c28
   c2a-c33 c35-c39 c41-c44 c60-c61 c66-c6f c82-c83 c85-c8c c8e-c90 c92-ca8 caa-cb3 cb5-cb9 cbe
   cc0-cc4 cc7-cc8 cca-ccb cd5-cd6 cde ce0-ce1 ce6-cef d02-d03 d05-d0c d0e-d10 d12-d28 d2a-d39
   d3e-d40 d46-d48 d4a-d4c d57 d60-d61 d66-d6f d82-d83 d85-d96 d9a-db1 db3-dbb dbd dc0-dc6
   dcf-dd1 dd8-ddf df2-df4 e01-e30 e32-e33 e40-e46 e4f-e5b e81-e82 e84 e87-e88 e8a e8d e94-e97
   e99-e9f ea1-ea3 ea5 ea7 eaa-eab ead-eb0 eb2-eb3 ebd ec0-ec4 ec6 ed0-ed9 edc-edd f00-f17
   f1a-f34 f36 f38 f3e-f47 f49-f6a f7f f85 f88-f8b fbe-fc5 fc7-fcc fcf 1000-1021 1023-1027
   1029-102a 102c 1031 1038 1040-1057 10a0-10c5 10d0-10f8 10fb 1100-1159 115f-11a2 11a8-11f9
   1200-1206 1208-1246 1248 124a-124d 1250-1256 1258 125a-125d 1260-1286 1288 128a-128d 1290-12ae
   12b0 12b2-12b5 12b8-12be 12c0 12c2-12c5 12c8-12ce 12d0-12d6 12d8-12ee 12f0-130e 1310 1312-1315
   1318-131e 1320-1346 1348-135a 1361-137c 13a0-13f4 1401-1676 1681-169a 16a0-16f0 1700-170c
   170e-1711 1720-1731 1735-1736 1740-1751 1760-176c 176e-1770 1780-17b6 17be-17c5 17c7-17c8
   17d4-17da 17dc 17e0-17e9 1810-1819 1820-1877 1880-18a8 1e00-1e9b 1ea0-1ef9 1f00-1f15 1f18-1f1d
   1f20-1f45 1f48-1f4d 1f50-1f57 1f59 1f5b 1f5d 1f5f-1f7d 1f80-1fb4 1fb6-1fbc 1fbe 1fc2-1fc4
   1fc6-1fcc 1fd0-1fd3 1fd6-1fdb 1fe0-1fec 1ff2-1ff4 1ff6-1ffc 200e 2071 207f 2102 2107 210a-2113
   2115 2119-211d 2124 2126 2128 212a-212d 212f-2131 2133-2139 213d-213f 2145-2149 2160-2183
   2336-237a 2395 249c-24e9 3005-3007 3021-3029 3031-3035 3038-303c 3041-3096 309d-309f 30a1-30fa
   30fc-30ff 3105-312c 3131-318e 3190-31b7 31f0-321c 3220-3243 3260-327b 327f-32b0 32c0-32cb
   32d0-32fe 3300-3376 337b-33dd 33e0-33fe 3400-4db5 4e00-9fa5 a000-a48c ac00-d7a3 e000-fa2d
   fa30-fa6a fb00-fb06 fb13-fb17 ff21-ff3a ff41-ff5a ff66-ffbe ffc2-ffc7 ffca-ffcf ffd2-ffd7
   ffda-ffdc 10300-1031e 10320-10323 10330-1034a 10400-10425 10428-1044d 1d000-1d0f5 1d100-1d126
   1d12a-1d166 1d16a-1d172 1d183-1d184 1d18c-1d1a9 1d1ae-1d1dd 1d400-1d454 1d456-1d49c
   1d49e-1d49f 1d4a2 1d4a5-1d4a6 1d4a9-1d4ac 1d4ae-1d4b9 1d4bb 1d4bd-1d4c0 1d4c2-1d4c3
   1d4c5-1d505 1d507-1d50a 1d50d-1d514 1d516-1d51c 1d51e-1d539 1d53b-1d53e 1d540-1d544 1d546
   1d54a-1d550 1d552-1d6a3 1d6a8-1d7c9 20000-2a6d6 2f800-2fa1d f0000-ffffd 100000-10fffd"

/-- Characters that preparation knows nothing about and leaves alone. -/
def unassigned : CodeRanges := CodeRanges.ofText
  "221 234-24f 2ae-2af 2ef-2ff 350-35f 370-373 376-379 37b-37d 37f-383 38b 38d 3a2 3cf 3f7-3ff
   487 4cf 4f6-4f7 4fa-4ff 510-530 557-558 560 588 58b-590 5a2 5ba 5c5-5cf 5eb-5ef 5f5-60b
   60d-61a 61c-61e 620 63b-63f 656-65f 6ee-6ef 6ff 70e 72d-72f 74b-77f 7b2-900 904 93a-93b
   94e-94f 955-957 971-980 984 98d-98e 991-992 9a9 9b1 9b3-9b5 9ba-9bb 9bd 9c5-9c6 9c9-9ca
   9ce-9d6 9d8-9db 9de 9e4-9e5 9fb-a01 a03-a04 a0b-a0e a11-a12 a29 a31 a34 a37 a3a-a3b a3d
   a43-a46 a49-a4a a4e-a58 a5d a5f-a65 a75-a80 a84 a8c a8e a92 aa9 ab1 ab4 aba-abb ac6 aca
   ace-acf ad1-adf ae1-ae5 af0-b00 b04 b0d-b0e b11-b12 b29 b31 b34-b35 b3a-b3b b44-b46 b49-b4a
   b4e-b55 b58-b5b b5e b62-b65 b71-b81 b84 b8b-b8d b91 b96-b98 b9b b9d ba0-ba2 ba5-ba7 bab-bad
   bb6 bba-bbd bc3-bc5 bc9 bce-bd6 bd8-be6 bf3-c00 c04 c0d c11 c29 c34 c3a-c3d c45 c49 c4e-c54
   c57-c5f c62-c65 c70-c81 c84 c8d c91 ca9 cb4 cba-cbd cc5 cc9 cce-cd4 cd7-cdd cdf ce2-ce5
   cf0-d01 d04 d0d d11 d29 d3a-d3d d44-d45 d49 d4e-d56 d58-d5f d62-d65 d70-d81 d84 d97-d99 db2
   dbc dbe-dbf dc7-dc9 dcb-dce dd5 dd7 de0-df1 df5-e00 e3b-e3e e5c-e80 e83 e85-e86 e89 e8b-e8c
   e8e-e93 e98 ea0 ea4 ea6 ea8-ea9 eac eba ebe-ebf ec5 ec7 ece-ecf eda-edb ede-eff f48 f6b-f70
   f8c-f8f f98 fbd fcd-fce fd0-fff 1022 1028 102b 1033-1035 103a-103f 105a-109f 10c6-10cf
   10f9-10fa 10fc-10ff 115a-115e 11a3-11a7 11fa-11ff 1207 1247 1249 124e-124f 1257 1259 125e-125f
   1287 1289 128e-128f 12af 12b1 12b6-12b7 12bf 12c1 12c6-12c7 12cf 12d7 12ef 130f 1311 1316-1317
   131f 1347 135b-1360 137d-139f 13f5-1400 1677-167f 169d-169f 16f1-16ff 170d 1715-171f 1737-173f
   1754-175f 176d 1771 1774-177f 17dd-17df 17ea-17ff 180f 181a-181f 1878-187f 18aa-1dff 1e9c-1e9f
   1efa-1eff 1f16-1f17 1f1e-1f1f 1f46-1f47 1f4e-1f4f 1f58 1f5a 1f5c 1f5e 1f7e-1f7f 1fb5 1fc5
   1fd4-1fd5 1fdc 1ff0-1ff1 1ff5 1fff 2053-2056 2058-205e 2064-2069 2072-2073 208f-209f 20b2-20cf
   20eb-20ff 213b-213c 214c-2152 2184-218f 23cf-23ff 2427-243f 244b-245f 24ff 2614-2615 2618
   267e-267f 268a-2700 2705 270a-270b 2728 274c 274e 2753-2755 2757 275f-2760 2795-2797 27b0
   27bf-27cf 27ec-27ef 2b00-2e7f 2e9a 2ef4-2eff 2fd6-2fef 2ffc-2fff 3040 3097-3098 3100-3104
   312d-3130 318f 31b8-31ef 321d-321f 3244-3250 327c-327e 32cc-32cf 32ff 3377-337a 33de-33df 33ff
   4db6-4dff 9fa6-9fff a48d-a48f a4c7-abff d7a4-d7ff fa2e-fa2f fa6b-faff fb07-fb12 fb18-fb1c fb37
   fb3d fb3f fb42 fb45 fbb2-fbd2 fd40-fd4f fd90-fd91 fdc8-fdef fdfd-fdff fe10-fe1f fe24-fe2f
   fe47-fe48 fe53 fe67 fe6c-fe6f fe75 fefd-fefe ff00 ffbf-ffc1 ffc8-ffc9 ffd0-ffd1 ffd8-ffd9
   ffdd-ffdf ffe7 ffef-fff8 fffe-102ff 1031f 10324-1032f 1034b-103ff 10426-10427 1044e-1cfff
   1d0f6-1d0ff 1d127-1d129 1d1de-1d3ff 1d455 1d49d 1d4a0-1d4a1 1d4a3-1d4a4 1d4a7-1d4a8 1d4ad
   1d4ba 1d4bc 1d4c1 1d4c4 1d506 1d50b-1d50c 1d515 1d51d 1d53a 1d53f 1d545 1d547-1d549 1d551
   1d6a4-1d6a7 1d7ca-1d7cd 1d800-1ffff 2a6d7-2f7ff 2fa1e-e0000 e0002-e001f e0080-effff
   ffffe-fffff 10fffe-10ffff"

/-- What characters are folded to, where it is not their lower form. -/
def foldings : CodeMap := CodeMap.ofText
  "b5:3bc df:73.73 149:2bc.6e 17f:73 1f0:6a.30c 345:3b9 37a:20.3b9 390:3b9.308.301
   3b0:3c5.308.301 3c2:3c3 3d0:3b2 3d1:3b8 3d2:3c5 3d3:3cd 3d4:3cb 3d5:3c6 3d6:3c0 3f0:3ba
   3f1:3c1 3f2:3c3 3f5:3b5 587:565.582 1e96:68.331 1e97:74.308 1e98:77.30a 1e99:79.30a
   1e9a:61.2be 1e9b:1e61 1f50:3c5.313 1f52:3c5.313.300 1f54:3c5.313.301 1f56:3c5.313.342
   1f80:1f00.3b9 1f81:1f01.3b9 1f82:1f02.3b9 1f83:1f03.3b9 1f84:1f04.3b9 1f85:1f05.3b9
   1f86:1f06.3b9 1f87:1f07.3b9 1f88:1f00.3b9 1f89:1f01.3b9 1f8a:1f02.3b9 1f8b:1f03.3b9
   1f8c:1f04.3b9 1f8d:1f05.3b9 1f8e:1f06.3b9 1f8f:1f07.3b9 1f90:1f20.3b9 1f91:1f21.3b9
   1f92:1f22.3b9 1f93:1f23.3b9 1f94:1f24.3b9 1f95:1f25.3b9 1f96:1f26.3b9 1f97:1f27.3b9
   1f98:1f20.3b9 1f99:1f21.3b9 1f9a:1f22.3b9 1f9b:1f23.3b9 1f9c:1f24.3b9 1f9d:1f25.3b9
   1f9e:1f26.3b9 1f9f:1f27.3b9 1fa0:1f60.3b9 1fa1:1f61.3b9 1fa2:1f62.3b9 1fa3:1f63.3b9
   1fa4:1f64.3b9 1fa5:1f65.3b9 1fa6:1f66.3b9 1fa7:1f67.3b9 1fa8:1f60.3b9 1fa9:1f61.3b9
   1faa:1f62.3b9 1fab:1f63.3b9 1fac:1f64.3b9 1fad:1f65.3b9 1fae:1f66.3b9 1faf:1f67.3b9
   1fb2:1f70.3b9 1fb3:3b1.3b9 1fb4:3ac.3b9 1fb6:3b1.342 1fb7:3b1.342.3b9 1fbc:3b1.3b9 1fbe:3b9
   1fc2:1f74.3b9 1fc3:3b7.3b9 1fc4:3ae.3b9 1fc6:3b7.342 1fc7:3b7.342.3b9 1fcc:3b7.3b9
   1fd2:3b9.308.300 1fd3:3b9.308.301 1fd6:3b9.342 1fd7:3b9.308.342 1fe2:3c5.308.300
   1fe3:3c5.308.301 1fe4:3c1.313 1fe6:3c5.342 1fe7:3c5.308.342 1ff2:1f7c.3b9 1ff3:3c9.3b9
   1ff4:3ce.3b9 1ff6:3c9.342 1ff7:3c9.342.3b9 1ffc:3c9.3b9 20a8:72.73 2102:63 2103:b0.63 2107:25b
   2109:b0.66 210b:68 210c:68 210d:68 2110:69 2111:69 2112:6c 2115:6e 2116:6e.6f 2119:70 211a:71
   211b:72 211c:72 211d:72 2120:73.6d 2121:74.65.6c 2122:74.6d 2124:7a 2128:7a 212c:62 212d:63
   2130:65 2131:66 2133:6d 213e:3b3 213f:3c0 2145:64 3371:68.70.61 3373:61.75 3375:6f.76
   3380:70.61 3381:6e.61 3382:3bc.61 3383:6d.61 3384:6b.61 3385:6b.62 3386:6d.62 3387:67.62
   338a:70.66 338b:6e.66 338c:3bc.66 3390:68.7a 3391:6b.68.7a 3392:6d.68.7a 3393:67.68.7a
   3394:74.68.7a 33a9:70.61 33aa:6b.70.61 33ab:6d.70.61 33ac:67.70.61 33b4:70.76 33b5:6e.76
   33b6:3bc.76 33b7:6d.76 33b8:6b.76 33b9:6d.76 33ba:70.77 33bb:6e.77 33bc:3bc.77 33bd:6d.77
   33be:6b.77 33bf:6d.77 33c0:6b.3c9 33c1:6d.3c9 33c3:62.71 33c6:63.2215.6b.67 33c7:63.6f.2e
   33c8:64.62 33c9:67.79 33cb:68.70 33cd:6b.6b 33ce:6b.6d 33d7:70.68 33d9:70.70.6d 33da:70.72
   33dc:73.76 33dd:77.62 fb00:66.66 fb01:66.69 fb02:66.6c fb03:66.66.69 fb04:66.66.6c fb05:73.74
   fb06:73.74 fb13:574.576 fb14:574.565 fb15:574.56b fb16:57e.576 fb17:574.56d 1d400:61 1d401:62
   1d402:63 1d403:64 1d404:65 1d405:66 1d406:67 1d407:68 1d408:69 1d409:6a 1d40a:6b 1d40b:6c
   1d40c:6d 1d40d:6e 1d40e:6f 1d40f:70 1d410:71 1d411:72 1d412:73 1d413:74 1d414:75 1d415:76
   1d416:77 1d417:78 1d418:79 1d419:7a 1d434:61 1d435:62 1d436:63 1d437:64 1d438:65 1d439:66
   1d43a:67 1d43b:68 1d43c:69 1d43d:6a 1d43e:6b 1d43f:6c 1d440:6d 1d441:6e 1d442:6f 1d443:70
   1d444:71 1d445:72 1d446:73 1d447:74 1d448:75 1d449:76 1d44a:77 1d44b:78 1d44c:79 1d44d:7a
   1d468:61 1d469:62 1d46a:63 1d46b:64 1d46c:65 1d46d:66 1d46e:67 1d46f:68 1d470:69 1d471:6a
   1d472:6b 1d473:6c 1d474:6d 1d475:6e 1d476:6f 1d477:70 1d478:71 1d479:72 1d47a:73 1d47b:74
   1d47c:75 1d47d:76 1d47e:77 1d47f:78 1d480:79 1d481:7a 1d49c:61 1d49e:63 1d49f:64 1d4a2:67
   1d4a5:6a 1d4a6:6b 1d4a9:6e 1d4aa:6f 1d4ab:70 1d4ac:71 1d4ae:73 1d4af:74 1d4b0:75 1d4b1:76
   1d4b2:77 1d4b3:78 1d4b4:79 1d4b5:7a 1d4d0:61 1d4d1:62 1d4d2:63 1d4d3:64 1d4d4:65 1d4d5:66
   1d4d6:67 1d4d7:68 1d4d8:69 1d4d9:6a 1d4da:6b 1d4db:6c 1d4dc:6d 1d4dd:6e 1d4de:6f 1d4df:70
   1d4e0:71 1d4e1:72 1d4e2:73 1d4e3:74 1d4e4:75 1d4e5:76 1d4e6:77 1d4e7:78 1d4e8:79 1d4e9:7a
   1d504:61 1d505:62 1d507:64 1d508:65 1d509:66 1d50a:67 1d50d:6a 1d50e:6b 1d50f:6c 1d510:6d
   1d511:6e 1d512:6f 1d513:70 1d514:71 1d516:73 1d517:74 1d518:75 1d519:76 1d51a:77 1d51b:78
   1d51c:79 1d538:61 1d539:62 1d53b:64 1d53c:65 1d53d:66 1d53e:67 1d540:69 1d541:6a 1d542:6b
   1d543:6c 1d544:6d 1d546:6f 1d54a:73 1d54b:74 1d54c:75 1d54d:76 1d54e:77 1d54f:78 1d550:79
   1d56c:61 1d56d:62 1d56e:63 1d56f:64 1d570:65 1d571:66 1d572:67 1d573:68 1d574:69 1d575:6a
   1d576:6b 1d577:6c 1d578:6d 1d579:6e 1d57a:6f 1d57b:70 1d57c:71 1d57d:72 1d57e:73 1d57f:74
   1d580:75 1d581:76 1d582:77 1d583:78 1d584:79 1d585:7a 1d5a0:61 1d5a1:62 1d5a2:63 1d5a3:64
   1d5a4:65 1d5a5:66 1d5a6:67 1d5a7:68 1d5a8:69 1d5a9:6a 1d5aa:6b 1d5ab:6c 1d5ac:6d 1d5ad:6e
   1d5ae:6f 1d5af:70 1d5b0:71 1d5b1:72 1d5b2:73 1d5b3:74 1d5b4:75 1d5b5:76 1d5b6:77 1d5b7:78
   1d5b8:79 1d5b9:7a 1d5d4:61 1d5d5:62 1d5d6:63 1d5d7:64 1d5d8:65 1d5d9:66 1d5da:67 1d5db:68
   1d5dc:69 1d5dd:6a 1d5de:6b 1d5df:6c 1d5e0:6d 1d5e1:6e 1d5e2:6f 1d5e3:70 1d5e4:71 1d5e5:72
   1d5e6:73 1d5e7:74 1d5e8:75 1d5e9:76 1d5ea:77 1d5eb:78 1d5ec:79 1d5ed:7a 1d608:61 1d609:62
   1d60a:63 1d60b:64 1d60c:65 1d60d:66 1d60e:67 1d60f:68 1d610:69 1d611:6a 1d612:6b 1d613:6c
   1d614:6d 1d615:6e 1d616:6f 1d617:70 1d618:71 1d619:72 1d61a:73 1d61b:74 1d61c:75 1d61d:76
   1d61e:77 1d61f:78 1d620:79 1d621:7a 1d63c:61 1d63d:62 1d63e:63 1d63f:64 1d640:65 1d641:66
   1d642:67 1d643:68 1d644:69 1d645:6a 1d646:6b 1d647:6c 1d648:6d 1d649:6e 1d64a:6f 1d64b:70
   1d64c:71 1d64d:72 1d64e:73 1d64f:74 1d650:75 1d651:76 1d652:77 1d653:78 1d654:79 1d655:7a
   1d670:61 1d671:62 1d672:63 1d673:64 1d674:65 1d675:66 1d676:67 1d677:68 1d678:69 1d679:6a
   1d67a:6b 1d67b:6c 1d67c:6d 1d67d:6e 1d67e:6f 1d67f:70 1d680:71 1d681:72 1d682:73 1d683:74
   1d684:75 1d685:76 1d686:77 1d687:78 1d688:79 1d689:7a 1d6a8:3b1 1d6a9:3b2 1d6aa:3b3 1d6ab:3b4
   1d6ac:3b5 1d6ad:3b6 1d6ae:3b7 1d6af:3b8 1d6b0:3b9 1d6b1:3ba 1d6b2:3bb 1d6b3:3bc 1d6b4:3bd
   1d6b5:3be 1d6b6:3bf 1d6b7:3c0 1d6b8:3c1 1d6b9:3b8 1d6ba:3c3 1d6bb:3c4 1d6bc:3c5 1d6bd:3c6
   1d6be:3c7 1d6bf:3c8 1d6c0:3c9 1d6d3:3c3 1d6e2:3b1 1d6e3:3b2 1d6e4:3b3 1d6e5:3b4 1d6e6:3b5
   1d6e7:3b6 1d6e8:3b7 1d6e9:3b8 1d6ea:3b9 1d6eb:3ba 1d6ec:3bb 1d6ed:3bc 1d6ee:3bd 1d6ef:3be
   1d6f0:3bf 1d6f1:3c0 1d6f2:3c1 1d6f3:3b8 1d6f4:3c3 1d6f5:3c4 1d6f6:3c5 1d6f7:3c6 1d6f8:3c7
   1d6f9:3c8 1d6fa:3c9 1d70d:3c3 1d71c:3b1 1d71d:3b2 1d71e:3b3 1d71f:3b4 1d720:3b5 1d721:3b6
   1d722:3b7 1d723:3b8 1d724:3b9 1d725:3ba 1d726:3bb 1d727:3bc 1d728:3bd 1d729:3be 1d72a:3bf
   1d72b:3c0 1d72c:3c1 1d72d:3b8 1d72e:3c3 1d72f:3c4 1d730:3c5 1d731:3c6 1d732:3c7 1d733:3c8
   1d734:3c9 1d747:3c3 1d756:3b1 1d757:3b2 1d758:3b3 1d759:3b4 1d75a:3b5 1d75b:3b6 1d75c:3b7
   1d75d:3b8 1d75e:3b9 1d75f:3ba 1d760:3bb 1d761:3bc 1d762:3bd 1d763:3be 1d764:3bf 1d765:3c0
   1d766:3c1 1d767:3b8 1d768:3c3 1d769:3c4 1d76a:3c5 1d76b:3c6 1d76c:3c7 1d76d:3c8 1d76e:3c9
   1d781:3c3 1d790:3b1 1d791:3b2 1d792:3b3 1d793:3b4 1d794:3b5 1d795:3b6 1d796:3b7 1d797:3b8
   1d798:3b9 1d799:3ba 1d79a:3bb 1d79b:3bc 1d79c:3bd 1d79d:3be 1d79e:3bf 1d79f:3c0 1d7a0:3c1
   1d7a1:3b8 1d7a2:3c3 1d7a3:3c4 1d7a4:3c5 1d7a5:3c6 1d7a6:3c7 1d7a7:3c8 1d7a8:3c9 1d7bb:3c3"

/-- A character folded, so that capitals and small letters agree. -/
def fold (c : Char) : List Char :=
  match foldings.find? c.toNat with
  | some ns => ns.map Char.ofNat
  | none => Case.lowerChar c

/-- The normal form of a text, in which characters that are left alone stand between
stretches of others. -/
def normal (cs : List Char) : List Char :=
  let known (c : Char) : Bool := !unassigned.contains c
  let form (cs : List Char) : List Char := (Normal.form (String.ofList cs)).toList
  let (stretch, done) := cs.foldl (fun (stretch, done) c =>
    if known c then (c :: stretch, done) else ([], c :: (form stretch.reverse).reverse ++ done))
    (([] : List Char), ([] : List Char))
  done.reverse ++ form stretch.reverse

/-- What a character becomes in a label before the label as a whole is normalised. -/
def mapped (c : Char) : List Char :=
  let folded := fold c
  let once := normal folded
  let twice := normal (once.flatMap fold)
  if once == twice then folded else twice

/-- Prepares a label. -/
def prepare (label : List Char) : Except CodecError (List Char) := do
  let cs := normal ((label.filter fun c => !dropped.contains c).flatMap mapped)
  if let some c := cs.find? prohibited.contains then
    throw (.refused ("Invalid character " ++ quoted (String.singleton c)))
  let reversed := cs.map rightToLeft.contains
  if reversed.any id then
    if cs.any leftToRight.contains then throw (.refused "Violation of BIDI requirement 2")
    if reversed.head? ≠ some true ∨ reversed.getLast? ≠ some true then
      throw (.refused "Violation of BIDI requirement 3")
  return cs

/-- What labels that are written differently begin with. -/
def start : List Char := "xn--".toList

/-- Whether a text has none but the first 128 characters. -/
def isPlain (cs : List Char) : Bool := cs.all fun c => c.toNat < 128

/-- A label of a size that is allowed. -/
def sized (cs : List Char) : Except CodecError (List Char) :=
  if 0 < cs.length ∧ cs.length < 64 then .ok cs
  else .error (.refused "label empty or too long")

/-- A label in letters, digits and hyphens. -/
def plainLabel (label : List Char) : Except CodecError (List Char) := do
  if isPlain label then sized label
  else
    let cs ← prepare label
    if isPlain cs then sized cs
    else if start.isPrefixOf cs then throw (.refused "Label starts with ACE prefix")
    else sized (start ++ Punycode.encode cs)

/-- The characters that part labels. -/
def dots : List Char := ['.', '\u3002', '\uff0e', '\uff61']

/-- Splits at each dot. -/
def labels (isDot : Char → Bool) (cs : List Char) : List (List Char) :=
  splitChars '.' (cs.map fun c => if isDot c then '.' else c)

/-- Writes a name. -/
def encode (handler : String) (cs : List Char) : Except CodecError (List UInt8) := do
  if handler != "strict" then throw (.refused ("unsupported error handling " ++ handler))
  let bytes (cs : List Char) : List UInt8 := cs.map fun c => UInt8.ofNat c.toNat
  if isPlain cs then
    let ls := labels (· == '.') cs
    for l in ls.dropLast do
      discard (sized l)
    if (ls.getLast?.getD []).length ≥ 64 then throw (.refused "label too long")
    return bytes cs
  let ls := labels dots.contains cs
  let isEnded := ls.getLast? == some []
  let written ← (if isEnded then ls.dropLast else ls).mapM plainLabel
  return bytes (['.'].intercalate written ++ if isEnded then ['.'] else [])

/-- Reads a label. -/
def readLabel (label : List UInt8) : Except CodecError (List Char) := do
  let code (cs : List Char) : List UInt8 := cs.map fun c => UInt8.ofNat c.toNat
  if !(code start).isPrefixOf label then
    (Bytewise.reader "ascii" 128).read "strict" label
  else
    let cs ← (Punycode.decode "strict" (label.drop 4)).mapError
      (CodecError.within "decoding" "punycode")
    let again ← plainLabel cs
    let given ← (Bytewise.reader "ascii" 128).read "strict" label
    if given.map Char.toLower != again then throw (.noRoundTrip label (code again))
    return cs

/-- Reads a name. -/
def decode (handler : String) (bs : List UInt8) : Except CodecError (List Char) := do
  if handler != "strict" then throw (.refused ("Unsupported error handling " ++ handler))
  let cs := bs.map fun b => Char.ofNat b.toNat
  if (Search.find? start cs).isNone && isPlain cs then return cs
  let ls := splitChars '.' cs
  let isEnded := ls.getLast? == some []
  let texts ← (if isEnded then ls.dropLast else ls).mapM fun l =>
    readLabel (l.map fun c => UInt8.ofNat c.toNat)
  return ['.'].intercalate texts ++ if isEnded then ['.'] else []

end DomainName

end Marginalia
