/-
What GB 18030 has beyond GBK.

The empty places of GBK, in order, hold characters for private use, but for a few that have been
given to others; the remaining characters have four bytes, in the order of their code points.
-/
import Marginalia.Text.CodeRanges

namespace Marginalia

namespace Charset

/-- The empty places of GBK beside its rows for users, as numbers of two bytes. -/
def gb18030Holes : CodeRanges := CodeRanges.ofText
  "a2ab-a2b0 a2e3-a2e4 a2ef-a2f0 a2fd-a2fe a4f4-a4fe a5f7-a5fe a6b9-a6c0 a6d9-a6df a6ec-a6ed
   a6f3 a6f6-a6fe a7c2-a7d0 a7f2-a7fe a896-a8a0 a8bc a8bf a8c1-a8c4 a8ea-a8fe a958 a95b
   a95d-a95f a989-a995 a997-a9a3 a9f0-a9fe d7fa-d7fe fe50-fe7e fe80-fea0"

/-- Characters in some of those places: the number of the first place, and from there on a
character or a full stop for each place. -/
def gb18030Late : List (Nat × String) :=
  [(6, "€"),
   (98, "ǹ"),
   (129, "〾⿰⿱⿲⿳⿴⿵⿶⿷⿸⿹⿺⿻"),
   (175, "⺁...⺄㑳㑇⺈⺋.㖞㘚㘎⺌⺗㥮㤘.㧏㧟㩳㧐..㭎㱮㳠⺧..⺪䁖䅟⺮䌷⺳⺶⺷.䎱䎬⺻䏝䓖䙡䙌.䜣䜩䝼䞍⻊䥇䥺䥽䦂䦃䦅䦆䦟䦛䦷䦶..䲣䲟䲠䲡䱷䲢䴓䴔䴕䴖䴗䴘䴙䶮")]

/-- The characters of four bytes from `U+0080` to `U+FFFF`. -/
def gb18030Long : CodeRanges := CodeRanges.ofText
  "80-a3 a5-a6 a9-af b2-b6 b8-d6 d8-df e2-e7 eb ee-f1 f4-f6 f8 fb fd-100 102-112 114-11a
   11c-12a 12c-143 145-147 149-14c 14e-16a 16c-1cd 1cf 1d1 1d3 1d5 1d7 1d9 1db 1dd-1f8
   1fa-250 252-260 262-2c6 2c8 2cc-2d8 2da-390 3a2 3aa-3b0 3c2 3ca-400 402-40f 450 452-200f
   2011-2012 2017 201a-201b 201e-2024 2027-202f 2031 2034 2036-203a 203c-20ab 20ad-2102 2104
   2106-2108 210a-2115 2117-2120 2122-215f 216c-216f 217a-218f 2194-2195 219a-2207 2209-220e
   2210 2212-2214 2216-2219 221b-221c 2221-2222 2224 2226 222c-222d 222f-2233 2238-223c
   223e-2247 2249-224b 224d-2251 2253-225f 2262-2263 2268-226d 2270-2294 2296-2298 229a-22a4
   22a6-22be 22c0-2311 2313-245f 246a-2473 249c-24ff 254c-254f 2574-2580 2590-2592 2596-259f
   25a2-25b1 25b4-25bb 25be-25c5 25c8-25ca 25cc-25cd 25d0-25e1 25e6-2604 2607-2608 260a-263f
   2641 2643-2e80 2e82-2e83 2e85-2e87 2e89-2e8a 2e8d-2e96 2e98-2ea6 2ea8-2ea9 2eab-2ead
   2eaf-2eb2 2eb4-2eb5 2eb8-2eba 2ebc-2ec9 2ecb-2fef 2ffc-2fff 3004 3018-301c 301f-3020
   302a-303d 303f-3040 3094-309a 309f-30a0 30f7-30fb 30ff-3104 312a-321f 322a-3230 3232-32a2
   32a4-338d 3390-339b 339f-33a0 33a2-33c3 33c5-33cd 33cf-33d0 33d3-33d4 33d6-3446 3448-3472
   3474-359d 359f-360d 360f-3619 361b-3917 3919-396d 396f-39ce 39d1-39de 39e0-3a72 3a74-3b4d
   3b4f-3c6d 3c6f-3cdf 3ce1-4055 4057-415e 4160-4336 4338-43ab 43ad-43b0 43b2-43dc 43de-44d5
   44d7-464b 464d-4660 4662-4722 4724-4728 472a-477b 477d-478c 478e-4946 4948-4979 497b-497c
   497e-4981 4984 4987-499a 499c-499e 49a0-49b5 49b8-4c76 4c78-4c9e 4ca4-4d12 4d1a-4dad
   4daf-4dff 9fa6-d7ff e76c e7c8 e7e7-e7f3 e815 e819-e81d e81f-e825 e827-e82a e82d-e830
   e833-e83a e83c-e842 e844-e853 e856-e863 e865-f92b f92d-f978 f97a-f994 f996-f9e6 f9e8-f9f0
   f9f2-fa0b fa10 fa12 fa15-fa17 fa19-fa1e fa22 fa25-fa26 fa2a-fe2f fe32 fe45-fe48 fe53 fe58
   fe67 fe6c-ff00 ff5f-ffdf ffe6-ffff"

end Charset

end Marginalia
