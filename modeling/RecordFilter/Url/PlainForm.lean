import RecordFilter.Unicode.CaseMap
import RecordFilter.Unicode.Current

set_option autoImplicit false

/-!
# Plain forms

A name may be written with characters that count as others: capital letters, letters in boxes,
numbers in circles, abbreviations in one character. The plain form of a name has those others in
their place. As far as it matters here, that is what is written in ASCII and what marks stand for:
all other characters have plain forms that are like themselves, and stand for themselves.
-/

namespace RecordFilter.Url

open Unicode (CharSet RunTable CaseRun)

/-! ## Characters of names -/

/-- The characters that no name contains, of those that Unicode 17.0 knows and that are not for
private use. -/
def refusedChars : CharSet := .ofText
  "80-a0 a8 af b4 b8 2d8-2dd 37a 384-385 600-605 61c 6dd 70f 890-891 8e2 1680 1fbd 1fbf-1fc1
   1fcd-1fcf 1fdd-1fdf 1fed-1fee 1ffd-1ffe 2000-200a 200e-200f 2017 2024-2026 2028-202f 203e
   2047-2049 205f 2066-2069 2100-2101 2105-2106 2488-249b 2a74 2ff0-3000 309b-309c 31ef 33c2 33c7
   33d8 fc5e-fc63 fdfa-fdfb fe12-fe13 fe16 fe19 fe30 fe47-fe4c fe52 fe55-fe56 fe5f fe64-fe65 fe68
   fe6a-fe6b fe70 fe72 fe74 fe76 fe78 fe7a fe7c fe7e ff03 ff05 ff0f ff1a ff1c ff1e-ff20 ff3b-ff3e
   ff5c ffe3 fff9-fffd 110bd 110cd 13430-1343f 1f100 e0001 e0020-e007f"

/-- The characters outside ASCII that a name may contain. -/
def acceptedChars : CharSet :=
  ((Unicode.withCategories [.unassigned, .privateUse]).complement.union
    Unicode.Current.newPrintable).difference refusedChars

/-- The characters that are left out. -/
def omittedChars : CharSet := .ofText
  "ad 34f 115f-1160 17b4-17b5 180b-180f 200b 2060-2064 206a-206f 3164 fe00-fe0f feff ffa0
   1bca0-1bca3 1d173-1d17a e0100-e01ef"

/-- The characters, besides capital letters, that count as others. -/
def otherChangedChars : CharSet := .ofText
  "aa b2-b3 b5 b9-ba bc-be 133 140 149 17f 1c6 1c9 1cc 1f3 2b0-2b8 2e0-2e4 340-341 343-345 374 37e
   387 3d0-3d6 3f0-3f2 3f5 587 675-678 958-95f 9dc-9dd 9df a33 a36 a59-a5b a5e b5c-b5d e33 eb3
   edc-edd f0c f43 f4d f52 f57 f5c f69 f73 f75-f79 f81 f93 f9d fa2 fa7 fac fb9 10fc 13f8-13fd
   1c80-1c88 1d2c-1d2e 1d30-1d3a 1d3c-1d4d 1d4f-1d6a 1d78 1d9b-1dbf 1e9a-1e9b 1f71 1f73 1f75 1f77
   1f79 1f7b 1f7d 1f80-1f87 1f90-1f97 1fa0-1fa7 1fb2-1fb4 1fb7 1fbe 1fc2-1fc4 1fc7 1fd3 1fe3 1fef
   1ff2-1ff4 1ff7 2011 2033-2034 2036-2037 203c 2057 2070-2071 2074-208e 2090-209c 20a8 2102-2103
   2107 2109-2113 2115-2116 2119-211d 2120-2122 2124 2128 212c-212d 212f-2131 2133-2139 213b-2140
   2145-2149 2150-215f 2170-217f 2189 222c-222d 222f-2230 2329-232a 2460-2487 249c-24b5 24d0-24ea
   2a0c 2a75-2a76 2adc 2c7c-2c7d 2d6f 2e9f 2ef3 2f00-2fd5 3002 3036 3038-303a 309f 30ff 3131-3163
   3165-318e 3192-319f 3200-321e 3220-3247 3250-327e 3280-33c1 33c3-33c6 33c8-33d7 33d9-33ff
   a69c-a69d a770 a7f1-a7f4 a7f8-a7f9 ab5c-ab5f ab69 ab70-abbf f900-fa0d fa10 fa12 fa15-fa1e fa20
   fa22 fa25-fa26 fa2a-fa6d fa70-fad9 fb00-fb06 fb13-fb17 fb1d fb1f-fb36 fb38-fb3c fb3e fb40-fb41
   fb43-fb44 fb46-fbb1 fbd3-fc5d fc64-fd3d fd50-fd8f fd92-fdc7 fdf0-fdf9 fdfc fe10-fe11 fe14-fe15
   fe17-fe18 fe31-fe44 fe4d-fe51 fe54 fe57-fe5e fe60-fe63 fe66 fe69 fe71 fe77 fe79 fe7b fe7d
   fe7f-fefc ff01-ff02 ff04 ff06-ff0e ff10-ff19 ff1b ff1d ff3f-ff5b ff5d-ff9f ffa1-ffbe ffc2-ffc7
   ffca-ffcf ffd2-ffd7 ffda-ffdc ffe0-ffe2 ffe4-ffe6 ffe8-ffee 10781-10785 10787-107b0 107b2-107ba
   1ccd6-1ccf9 1d15e-1d164 1d1bb-1d1c0 1d400-1d454 1d456-1d49c 1d49e-1d49f 1d4a2 1d4a5-1d4a6
   1d4a9-1d4ac 1d4ae-1d4b9 1d4bb 1d4bd-1d4c3 1d4c5-1d505 1d507-1d50a 1d50d-1d514 1d516-1d51c
   1d51e-1d539 1d53b-1d53e 1d540-1d544 1d546 1d54a-1d550 1d552-1d6a5 1d6a8-1d7cb 1d7ce-1d7ff
   1e030-1e06d 1ee00-1ee03 1ee05-1ee1f 1ee21-1ee22 1ee24 1ee27 1ee29-1ee32 1ee34-1ee37 1ee39 1ee3b
   1ee42 1ee47 1ee49 1ee4b 1ee4d-1ee4f 1ee51-1ee52 1ee54 1ee57 1ee59 1ee5b 1ee5d 1ee5f 1ee61-1ee62
   1ee64 1ee67-1ee6a 1ee6c-1ee72 1ee74-1ee77 1ee79-1ee7c 1ee7e 1ee80-1ee89 1ee8b-1ee9b 1eea1-1eea3
   1eea5-1eea9 1eeab-1eebb 1f101-1f10a 1f110-1f12e 1f130-1f14f 1f16a-1f16c 1f190 1f200-1f202
   1f210-1f23b 1f240-1f248 1f250-1f251 1fbf0-1fbf9 2f800-2fa1d"

/-- The characters outside ASCII that count as themselves. -/
def keptChars : CharSet :=
  acceptedChars.difference (.unions [omittedChars, otherChangedChars,
    (CharSet.ofCodes ((Unicode.lowercaseRuns ++ Unicode.newLowercaseRuns).flatMap
      CaseRun.sources)).difference (.ofText "13a0-13f5")])

/-! ## Plain forms -/

/-- Characters from `first` to `last` that count as others. The plain form of the first is given;
those of the others follow in order. -/
structure PlainRun where
  first : Nat
  last : Nat
  form : List Nat

/-- The run written as one code or two with a dash, a colon, and the codes of the plain form with
points between them. -/
def PlainRun.ofWord (word : List Char) : PlainRun :=
  let codes := (word.takeWhile (· ≠ ':'))
  let first := RunTable.hexNumber (codes.takeWhile (· ≠ '-'))
  let last := match codes.dropWhile (· ≠ '-') with
    | _ :: digits => RunTable.hexNumber digits
    | [] => first
  let form := ((word.dropWhile (· ≠ ':')).drop 1).splitOnP (· == '.')
  ⟨first, last, form.map RunTable.hexNumber⟩

/-- The characters that count as characters of ASCII or as marks. -/
def plainRuns : List PlainRun := (RunTable.words
  "aa:61 b2-b3:32 b9:31 ba:6f bc:31.2044.34 bd:31.2044.32 be:33.2044.34 130:69.307 132:69.6a
   133:69.6a 13f:6c.b7 140:6c.b7 149:2bc.6e 17f:73 1c4:64.17e 1c5:64.17e 1c6:64.17e 1c7:6c.6a
   1c8:6c.6a 1c9:6c.6a 1ca:6e.6a 1cb:6e.6a 1cc:6e.6a 1f1:64.7a 1f2:64.7a 1f3:64.7a 2b0:68 2b2:6a
   2b3:72 2b7:77 2b8:79 2e1:6c 2e2:73 2e3:78 345:3b9 37e:3b e33:e4d.e32 eb3:ecd.eb2 1d2c:61
   1d2e:62 1d30-1d31:64 1d33-1d3a:67 1d3c:6f 1d3e:70 1d3f:72 1d40-1d41:74 1d42:77 1d43:61 1d47:62
   1d48-1d49:64 1d4d:67 1d4f:6b 1d50:6d 1d52:6f 1d56:70 1d57-1d58:74 1d5b:76 1d62:69 1d63:72
   1d64-1d65:75 1d9c:63 1da0:66 1dbb:7a 1e9a:61.2be 1fef:60 203c:21.21 2070:30 2071:69
   2074-2079:34 207a:2b 207c:3d 207d-207e:28 207f:6e 2080-2089:30 208a:2b 208c:3d 208d-208e:28
   2090:61 2091:65 2092:6f 2093:78 2095:68 2096-2099:6b 209a:70 209b-209c:73 20a8:72.73 2102:63
   2103:b0.63 2109:b0.66 210a-210b:67 210c:68 210d:68 210e:68 2110:69 2111:69 2112:6c 2113:6c
   2115:6e 2116:6e.6f 2119-211b:70 211c:72 211d:72 2120:73.6d 2121:74.65.6c 2122:74.6d 2124:7a
   2128:7a 212a:6b 212c-212d:62 212f:65 2130-2131:65 2133:6d 2134:6f 2139:69 213b:66.61.78 2145:64
   2146-2147:64 2148-2149:69 2150:31.2044.37 2151:31.2044.39 2152:31.2044.31.30 2153:31.2044.33
   2154:32.2044.33 2155:31.2044.35 2156:32.2044.35 2157:33.2044.35 2158:34.2044.35 2159:31.2044.36
   215a:35.2044.36 215b:31.2044.38 215c:33.2044.38 215d:35.2044.38 215e:37.2044.38 215f:31.2044
   2160:69 2161:69.69 2162:69.69.69 2163:69.76 2164:76 2165:76.69 2166:76.69.69 2167:76.69.69.69
   2168:69.78 2169:78 216a:78.69 216b:78.69.69 216c:6c 216d-216e:63 216f:6d 2170:69 2171:69.69
   2172:69.69.69 2173:69.76 2174:76 2175:76.69 2176:76.69.69 2177:76.69.69.69 2178:69.78 2179:78
   217a:78.69 217b:78.69.69 217c:6c 217d-217e:63 217f:6d 2189:30.2044.33 2460-2468:31 2469:31.30
   246a:31.31 246b:31.32 246c:31.33 246d:31.34 246e:31.35 246f:31.36 2470:31.37 2471:31.38
   2472:31.39 2473:32.30 2474:28.31.29 2475:28.32.29 2476:28.33.29 2477:28.34.29 2478:28.35.29
   2479:28.36.29 247a:28.37.29 247b:28.38.29 247c:28.39.29 247d:28.31.30.29 247e:28.31.31.29
   247f:28.31.32.29 2480:28.31.33.29 2481:28.31.34.29 2482:28.31.35.29 2483:28.31.36.29
   2484:28.31.37.29 2485:28.31.38.29 2486:28.31.39.29 2487:28.32.30.29 249c:28.61.29 249d:28.62.29
   249e:28.63.29 249f:28.64.29 24a0:28.65.29 24a1:28.66.29 24a2:28.67.29 24a3:28.68.29
   24a4:28.69.29 24a5:28.6a.29 24a6:28.6b.29 24a7:28.6c.29 24a8:28.6d.29 24a9:28.6e.29
   24aa:28.6f.29 24ab:28.70.29 24ac:28.71.29 24ad:28.72.29 24ae:28.73.29 24af:28.74.29
   24b0:28.75.29 24b1:28.76.29 24b2:28.77.29 24b3:28.78.29 24b4:28.79.29 24b5:28.7a.29
   24b6-24cf:61 24d0-24e9:61 24ea:30 2a75:3d.3d 2a76:3d.3d.3d 2c7c:6a 2c7d:76 3002:2e
   3200:28.1100.29 3201:28.1102.29 3202:28.1103.29 3203:28.1105.29 3204:28.1106.29 3205:28.1107.29
   3206:28.1109.29 3207:28.110b.29 3208:28.110c.29 3209:28.110e.29 320a:28.110f.29 320b:28.1110.29
   320c:28.1111.29 320d:28.1112.29 320e:28.ac00.29 320f:28.b098.29 3210:28.b2e4.29 3211:28.b77c.29
   3212:28.b9c8.29 3213:28.bc14.29 3214:28.c0ac.29 3215:28.c544.29 3216:28.c790.29 3217:28.cc28.29
   3218:28.ce74.29 3219:28.d0c0.29 321a:28.d30c.29 321b:28.d558.29 321c:28.c8fc.29
   321d:28.c624.c804.29 321e:28.c624.d6c4.29 3220:28.4e00.29 3221:28.4e8c.29 3222:28.4e09.29
   3223:28.56db.29 3224:28.4e94.29 3225:28.516d.29 3226:28.4e03.29 3227:28.516b.29 3228:28.4e5d.29
   3229:28.5341.29 322a:28.6708.29 322b:28.706b.29 322c:28.6c34.29 322d:28.6728.29 322e:28.91d1.29
   322f:28.571f.29 3230:28.65e5.29 3231:28.682a.29 3232:28.6709.29 3233:28.793e.29 3234:28.540d.29
   3235:28.7279.29 3236:28.8ca1.29 3237:28.795d.29 3238:28.52b4.29 3239:28.4ee3.29 323a:28.547c.29
   323b:28.5b66.29 323c:28.76e3.29 323d:28.4f01.29 323e:28.8cc7.29 323f:28.5354.29 3240:28.796d.29
   3241:28.4f11.29 3242:28.81ea.29 3243:28.81f3.29 3250:70.74.65 3251:32.31 3252:32.32 3253:32.33
   3254:32.34 3255:32.35 3256:32.36 3257:32.37 3258:32.38 3259:32.39 325a:33.30 325b:33.31
   325c:33.32 325d:33.33 325e:33.34 325f:33.35 32b1:33.36 32b2:33.37 32b3:33.38 32b4:33.39
   32b5:34.30 32b6:34.31 32b7:34.32 32b8:34.33 32b9:34.34 32ba:34.35 32bb:34.36 32bc:34.37
   32bd:34.38 32be:34.39 32bf:35.30 32c0:31.6708 32c1:32.6708 32c2:33.6708 32c3:34.6708
   32c4:35.6708 32c5:36.6708 32c6:37.6708 32c7:38.6708 32c8:39.6708 32c9:31.30.6708
   32ca:31.31.6708 32cb:31.32.6708 32cc:68.67 32cd:65.72.67 32ce:65.76 32cf:6c.74.64 3358:30.70b9
   3359:31.70b9 335a:32.70b9 335b:33.70b9 335c:34.70b9 335d:35.70b9 335e:36.70b9 335f:37.70b9
   3360:38.70b9 3361:39.70b9 3362:31.30.70b9 3363:31.31.70b9 3364:31.32.70b9 3365:31.33.70b9
   3366:31.34.70b9 3367:31.35.70b9 3368:31.36.70b9 3369:31.37.70b9 336a:31.38.70b9 336b:31.39.70b9
   336c:32.30.70b9 336d:32.31.70b9 336e:32.32.70b9 336f:32.33.70b9 3370:32.34.70b9 3371:68.70.61
   3372:64.61 3373:61.75 3374:62.61.72 3375:6f.76 3376:70.63 3377:64.6d 3378:64.6d.32
   3379:64.6d.33 337a:69.75 3380:70.61 3381:6e.61 3382:3bc.61 3383:6d.61 3384:6b.61 3385:6b.62
   3386:6d.62 3387:67.62 3388:63.61.6c 3389:6b.63.61.6c 338a:70.66 338b:6e.66 338c:3bc.66
   338d:3bc.67 338e:6d.67 338f:6b.67 3390:68.7a 3391:6b.68.7a 3392:6d.68.7a 3393:67.68.7a
   3394:74.68.7a 3395:3bc.6c 3396:6d.6c 3397:64.6c 3398:6b.6c 3399:66.6d 339a:6e.6d 339b:3bc.6d
   339c:6d.6d 339d:63.6d 339e:6b.6d 339f:6d.6d.32 33a0:63.6d.32 33a1:6d.32 33a2:6b.6d.32
   33a3:6d.6d.33 33a4:63.6d.33 33a5:6d.33 33a6:6b.6d.33 33a7:6d.2215.73 33a8:6d.2215.73.32
   33a9:70.61 33aa:6b.70.61 33ab:6d.70.61 33ac:67.70.61 33ad:72.61.64 33ae:72.61.64.2215.73
   33af:72.61.64.2215.73.32 33b0:70.73 33b1:6e.73 33b2:3bc.73 33b3:6d.73 33b4:70.76 33b5:6e.76
   33b6:3bc.76 33b7:6d.76 33b8:6b.76 33b9:6d.76 33ba:70.77 33bb:6e.77 33bc:3bc.77 33bd:6d.77
   33be:6b.77 33bf:6d.77 33c0:6b.3c9 33c1:6d.3c9 33c3:62.71 33c4:63.63 33c5:63.64
   33c6:63.2215.6b.67 33c8:64.62 33c9:67.79 33ca:68.61 33cb:68.70 33cc:69.6e 33cd:6b.6b 33ce:6b.6d
   33cf:6b.74 33d0:6c.6d 33d1:6c.6e 33d2:6c.6f.67 33d3:6c.78 33d4:6d.62 33d5:6d.69.6c
   33d6:6d.6f.6c 33d7:70.68 33d9:70.70.6d 33da:70.72 33db:73.72 33dc:73.76 33dd:77.62
   33de:76.2215.6d 33df:61.2215.6d 33e0:31.65e5 33e1:32.65e5 33e2:33.65e5 33e3:34.65e5
   33e4:35.65e5 33e5:36.65e5 33e6:37.65e5 33e7:38.65e5 33e8:39.65e5 33e9:31.30.65e5
   33ea:31.31.65e5 33eb:31.32.65e5 33ec:31.33.65e5 33ed:31.34.65e5 33ee:31.35.65e5 33ef:31.36.65e5
   33f0:31.37.65e5 33f1:31.38.65e5 33f2:31.39.65e5 33f3:32.30.65e5 33f4:32.31.65e5 33f5:32.32.65e5
   33f6:32.33.65e5 33f7:32.34.65e5 33f8:32.35.65e5 33f9:32.36.65e5 33fa:32.37.65e5 33fb:32.38.65e5
   33fc:32.39.65e5 33fd:33.30.65e5 33fe:33.31.65e5 33ff:67.61.6c a7f1:73 a7f2:63 a7f3:66 a7f4:71
   fb00:66.66 fb01:66.69 fb02:66.6c fb03:66.66.69 fb04:66.66.6c fb05:73.74 fb06:73.74 fb29:2b
   fe10:2c fe14:3b fe15:21 fe33:5f fe34:5f fe35-fe36:28 fe37:7b fe38:7d fe4d:5f fe4e:5f fe4f:5f
   fe50:2c fe54:3b fe57:21 fe59-fe5a:28 fe5b:7b fe5c:7d fe60:26 fe61-fe62:2a fe63:2d fe66:3d
   fe69:24 ff01-ff02:21 ff04:24 ff06-ff0e:26 ff10-ff19:30 ff1b:3b ff1d:3d ff21-ff3a:61
   ff3f-ff5b:5f ff5d-ff5e:7d ff61:2e ff9e-ff9f:3099 107a5:71 1ccd6-1ccef:61 1ccf0-1ccf9:30
   1d400-1d419:61 1d41a-1d433:61 1d434-1d44d:61 1d44e-1d454:61 1d456-1d467:69 1d468-1d481:61
   1d482-1d49b:61 1d49c:61 1d49e-1d49f:63 1d4a2:67 1d4a5-1d4a6:6a 1d4a9-1d4ac:6e 1d4ae-1d4b5:73
   1d4b6-1d4b9:61 1d4bb:66 1d4bd-1d4c3:68 1d4c5-1d4cf:70 1d4d0-1d4e9:61 1d4ea-1d503:61
   1d504-1d505:61 1d507-1d50a:64 1d50d-1d514:6a 1d516-1d51c:73 1d51e-1d537:61 1d538-1d539:61
   1d53b-1d53e:64 1d540-1d544:69 1d546:6f 1d54a-1d550:73 1d552-1d56b:61 1d56c-1d585:61
   1d586-1d59f:61 1d5a0-1d5b9:61 1d5ba-1d5d3:61 1d5d4-1d5ed:61 1d5ee-1d607:61 1d608-1d621:61
   1d622-1d63b:61 1d63c-1d655:61 1d656-1d66f:61 1d670-1d689:61 1d68a-1d6a3:61 1d7ce-1d7d7:30
   1d7d8-1d7e1:30 1d7e2-1d7eb:30 1d7ec-1d7f5:30 1d7f6-1d7ff:30 1f101:30.2c 1f102:31.2c 1f103:32.2c
   1f104:33.2c 1f105:34.2c 1f106:35.2c 1f107:36.2c 1f108:37.2c 1f109:38.2c 1f10a:39.2c
   1f110:28.61.29 1f111:28.62.29 1f112:28.63.29 1f113:28.64.29 1f114:28.65.29 1f115:28.66.29
   1f116:28.67.29 1f117:28.68.29 1f118:28.69.29 1f119:28.6a.29 1f11a:28.6b.29 1f11b:28.6c.29
   1f11c:28.6d.29 1f11d:28.6e.29 1f11e:28.6f.29 1f11f:28.70.29 1f120:28.71.29 1f121:28.72.29
   1f122:28.73.29 1f123:28.74.29 1f124:28.75.29 1f125:28.76.29 1f126:28.77.29 1f127:28.78.29
   1f128:28.79.29 1f129:28.7a.29 1f12a:3014.73.3015 1f12b:63 1f12c:72 1f12d:63.64 1f12e:77.7a
   1f130-1f149:61 1f14a:68.76 1f14b:6d.76 1f14c:73.64 1f14d:73.73 1f14e:70.70.76 1f14f:77.63
   1f16a:6d.63 1f16b:6d.64 1f16c:6d.72 1f190:64.6a 1f240:3014.672c.3015 1f241:3014.4e09.3015
   1f242:3014.4e8c.3015 1f243:3014.5b89.3015 1f244:3014.70b9.3015 1f245:3014.6253.3015
   1f246:3014.76d7.3015 1f247:3014.52dd.3015 1f248:3014.6557.3015 1fbf0-1fbf9:30").map
    PlainRun.ofWord

/-- The plain form of a character. -/
def plainForm (c : Char) : List Char :=
  if c.toNat < 128 then [c.toLower]
  else if omittedChars.contains c then []
  else
    match plainRuns.find? fun run => run.first ≤ c.toNat && c.toNat ≤ run.last with
    | some run => run.form.map fun code => Char.ofNat (code + (c.toNat - run.first))
    | none => [c]

end RecordFilter.Url
