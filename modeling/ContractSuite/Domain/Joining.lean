import ContractSuite.Domain.Composition

namespace ContractSuite.Domain

/-- Ranges of letters that are joined with the letter behind them. -/
def joinsNextRanges : List Nat := Table.numbers [
  "17k 17k 17q 17q 17s 17s 17u 17y 183 18f 18h 18n 18p 18q 19q 19r 1a1 1af 1ay 1bz 1c1 1c2 1cc",
  "1cc 1ce 1ce 1cg 1ch 1dm 1do 1dr 1dr 1ea 1ec 1ei 1el 1en 1ev 1ex 1ex 1ez 1ez 1f1 1f2 1fy 1g8",
  "1gc 1gq 1gt 1gw 1gy 1gy 1h1 1h3 1h6 1hb 1je 1ka 1mp 1mt 1mw 1mw 1my 1n7 1n9 1n9 1nk 1nk 1nm",
  "1np 1ns 1ns 1om 1om 1op 1ot 1ov 1ov 1pc 1pl 1pr 1ps 1pv 1q0 1q2 1qg 4qv 4qv 4rk 4u0 4uf 4vc",
  "4ve 4ve x8g x9u 1gow 1gp0 1gp9 1gp9 1gpf 1gpo 1gpq 1gps 1gq3 1gq6 1gu8 1gu8 1gua 1gua 1gue",
  "1gug 1gui 1guj 1gul 1gul 1guo 1guo 1gvh 1gvi 1h4w 1h5t 1h5v 1h5v 1hhf 1hhg 1hhi 1hhj 1hkg 1hki",
  "1hkk 1hl0 1hld 1hlf 1hm8 1hmb 1hme 1hmp 1ho0 1ho0 1ho2 1ho3 1ho8 1ho8 1hob 1hoc 1hoe 1hof 1hoh",
  "1hoh 1hok 1hok 1hoq 1hor 2oma 2on7"]

/-- Ranges of letters that are joined with the letter before them. -/
def joinsPreviousRanges : List Nat := Table.numbers [
  "17k 17k 17m 18f 18h 18q 19q 19r 19t 19v 1a1 1cj 1cl 1cl 1da 1db 1dm 1do 1dr 1dr 1e8 1e8 1ea",
  "1f3 1fx 1hb 1je 1ka 1mo 1nc 1nk 1nk 1nm 1np 1nr 1oi 1om 1om 1op 1ov 1pc 1po 1pq 1qg 4qv 4qv",
  "4rk 4u0 4uf 4vc 4ve 4ve x8g x9t 1gow 1gp1 1gp3 1gp3 1gp5 1gp6 1gpa 1gpi 1gpk 1gpt 1gpw 1gpw",
  "1gq3 1gq7 1gu8 1gup 1gvd 1gvi 1h4x 1h5v 1hhe 1hhg 1hhi 1hhj 1hkg 1hl0 1hld 1hlg 1hm8 1hmp 1ho0",
  "1ho0 1ho2 1ho6 1ho8 1hof 1hoh 1hok 1hop 1hoq 2oma 2on7"]

/-- Ranges of marks through which letters are joined. -/
def transparentRanges : List Nat := Table.numbers [
  "lc of w3 w9 13l 14t 14v 14v 14x 14y 150 151 153 153 174 17e 18r 19b 19s 19s 1cm 1cs 1cv 1d0",
  "1d3 1d4 1d6 1d9 1e9 1e9 1f4 1fu 1ie 1io 1kb 1kj 1kt 1kt 1li 1ll 1ln 1lv 1lx 1lz 1m1 1m5 1nd",
  "1nf 1p3 1pb 1qi 1s2 1tm 1tm 1to 1to 1tt 1u0 1u5 1u5 1u9 1uf 1uq 1ur 1vl 1vl 1x8 1x8 1xd 1xg",
  "1xp 1xp 1ya 1yb 1z2 1z6 20s 20s 20x 21d 228 229 22d 22d 22p 22q 24c 24c 24h 24o 24t 24t 25e",
  "25f 262 269 27w 27w 27z 27z 281 284 28d 28m 28y 28z 29u 29u 2bk 2bk 2bx 2bx 2dc 2dc 2dg 2dg",
  "2f0 2f0 2f2 2f4 2fa 2fq 2g2 2g3 2gx 2gx 2ik 2ik 2in 2in 2iu 2iu 2j0 2j1 2jm 2jn 2kg 2kh 2m3",
  "2m4 2m9 2mc 2ml 2ml 2n6 2n7 2o1 2o1 2q2 2q2 2qa 2qe 2sx 2sx 2t0 2t6 2tj 2tq 2wh 2wh 2wk 2ws",
  "2x4 2xa 2zc 2zd 305 305 307 307 309 309 31t 326 328 32c 32e 32f 32l 33w 346 346 371 374 376",
  "37b 37d 37e 37h 37i 388 389 38e 38g 38x 390 39e 39e 39h 39i 39p 39p 3a5 3a5 3tp 3tr 4k2 4k4",
  "4ky 4kz 4lu 4lv 4mq 4mr 4on 4ot 4p2 4p2 4p5 4pf 4pp 4pp 4ud 4ue 4vd 4vd 4yo 4yq 4yv 4yw 4z6",
  "4z6 4zd 4zf 55j 55k 55n 55n 57a 57a 57c 57k 57m 57m 57p 57w 583 58f 59s 5c3 5dg 5dg 5di 5dm",
  "5do 5do 5du 5du 5ez 5f7 5fk 5fl 5gi 5gl 5go 5gp 5gr 5gt 5ie 5ie 5ig 5ih 5il 5il 5in 5ip 5kc",
  "5kj 5km 5kn 5ow 5oy 5p0 5pc 5pe 5pk 5pp 5pp 5pw 5pw 5q0 5q1 5vk 5xb 6hc 6i8 8vj 8vl 8zj 8zj",
  "928 933 9ii 9il 9ll 9lm wvj wvm wvo wvx wwu wwv wz4 wz5 x6q x6q x6u x6u x6z x6z x7p x7q x7w",
  "x7w xc4 xc5 xcw xdd xdr xdr xeu xf1 xfr xg1 xhc xhe xir xir xiu xix xj0 xj1 xk5 xk5 xm1 xm6",
  "xm9 xma xmd xme xmr xmr xn0 xn0 xoc xoc xps xps xpu xpw xpz xq0 xq6 xq7 xq9 xq9 xrg xrh xrq",
  "xrq xyd xyd xyg xyg xyl xyl 1dlq 1dlq 1e74 1e7j 1eyl 1eyl 1f4w 1f4w 1f92 1f96 1gjl 1gjz 1gl4",
  "1glb 1gpx 1gpy 1h5w 1h5z 1h7t 1h7x 1hgr 1hgs 1hiy 1hj3 1hl2 1hlc 1hmq 1hmt 1hq9 1hq9 1hrs 1hs6",
  "1htc 1htc 1htf 1htg 1htr 1htt 1hv7 1hva 1hvd 1hve 1hvm 1hvm 1hxc 1hxe 1hyf 1hyj 1hyl 1hys 1i0j",
  "1i0j 1i0w 1i0x 1i2e 1i2m 1i2x 1i30 1i33 1i33 1i5r 1i5t 1i5w 1i5w 1i5y 1i5z 1i66 1i66 1i69 1i69",
  "1ian 1ian 1iar 1iay 1ibk 1ibl 1id7 1id8 1idc 1idc 1iee 1ies 1igr 1igw 1iha 1iha 1ihc 1ihc 1ihe",
  "1ihe 1iht 1ihu 1ik8 1ikf 1iki 1ikk 1ikm 1ikm 1ila 1ila 1inn 1ins 1inu 1inu 1inz 1io0 1io2 1io3",
  "1iuq 1iut 1iv0 1iv1 1iv3 1iv4 1ivw 1ivx 1iyb 1iyi 1iyl 1iyl 1iyn 1iyo 1j1n 1j1n 1j1p 1j1p 1j1s",
  "1j1x 1j1z 1j1z 1j4t 1j4t 1j4v 1j4v 1j4y 1j51 1j53 1j57 1jcf 1jcn 1jcp 1jcq 1jjv 1jjw 1jjy 1jjy",
  "1jk3 1jk3 1jo4 1job 1jog 1jog 1jpd 1jpm 1jqr 1jqw 1jqz 1jr2 1jrb 1jrb 1jrl 1jrq 1jrt 1jrv 1jt6",
  "1jti 1jtk 1jtl 1jz4 1jz4 1jz6 1jz8 1jza 1jza 1k4w 1k59 1k5b 1k5b 1k7m 1k87 1k8a 1k8g 1k8i 1k8j",
  "1k8l 1k8m 1kc1 1kcl 1kcn 1kcn 1keo 1kep 1ket 1ket 1kev 1kev 1koj 1kok 1kow 1kox 1kqe 1kqi 1kqo",
  "1kqo 1kqq 1kqq 1kre 1kre 1ow0 1ow0 1ow7 1owl 1xr2 1xrd 1xrh 1xrj 1zow 1zp0 1zqo 1zqu 20jz 20jz",
  "20lr 20lu 20o4 20o4 2ftp 2ftq 2jgg 2jie 2jxj 2jxl 2jy3 2jya 2jyd 2jyj 2jze 2jzh 2k3m 2k3o 2lmo",
  "2lo6 2lob 2lpo 2lpx 2lpx 2lqc 2lqc 2lqz 2lrj 2mtc 2mxb 2n1s 2n1y 2nce 2nce 2ne4 2ne7 2nsc 2nsf",
  "2nzi 2nzj 2o6b 2o6b 2o6e 2o6e 2o6m 2o6n 2o6t 2o6t 2ok0 2ok6 2on8 2onf"]

/-- The character that keeps letters apart. -/
def nonJoiner : Char := Char.ofNat 0x200C

/-- The character that joins letters. -/
def joiner : Char := Char.ofNat 0x200D

/-- The class of the signs that take away a vowel. -/
def vowelKillerClass : Nat := 9

/-- Holds of the marks through which letters are joined. -/
def isTransparent (c : Char) : Bool :=
  Table.isInRanges transparentRanges c.toNat

/-- Holds when the first letter of a text, marks apart, lies in ranges. -/
def startsIn (ranges : List Nat) (s : List Char) : Bool :=
  (s.dropWhile isTransparent).head?.any fun c => Table.isInRanges ranges c.toNat

/-- Holds when a joiner may stand between two texts, of which the first has its last character first. -/
def mayJoin (c : Char) (before after : List Char) : Bool :=
  before.head?.any (fun d => markClass d = vowelKillerClass) ||
    (c = nonJoiner && startsIn joinsNextRanges before && startsIn joinsPreviousRanges after)

/-- Holds of a label in which each joiner may stand where it does. `before` is what stands in front of the
label, with the last character first. -/
def joinsWell (before : List Char) : List Char → Bool
  | [] => true
  | c :: rest =>
    ((c ≠ nonJoiner && c ≠ joiner) || mayJoin c before rest) && joinsWell (c :: before) rest

end ContractSuite.Domain
