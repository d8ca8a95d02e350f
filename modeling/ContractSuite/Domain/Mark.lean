import ContractSuite.Domain.Table

namespace ContractSuite.Domain

/-- Ranges of marks. -/
def markRanges : List Nat := Table.numbers [
  "lc of w3 w9 13l 14t 14v 14v 14x 14y 150 151 153 153 174 17e 18r 19b 19s 19s 1cm 1cs 1cv 1d0",
  "1d3 1d4 1d6 1d9 1e9 1e9 1f4 1fu 1ie 1io 1kb 1kj 1kt 1kt 1li 1ll 1ln 1lv 1lx 1lz 1m1 1m5 1nd",
  "1nf 1p4 1pb 1qi 1s3 1tm 1to 1tq 1u7 1u9 1uf 1uq 1ur 1vl 1vn 1x8 1x8 1xa 1xp 1xz 1xz 1ya 1yb",
  "1z2 1z7 20s 21d 228 229 22d 22d 22p 22r 24c 24c 24e 24t 25e 25f 262 26b 27w 27w 27y 28n 28y",
  "28z 29u 29u 2bi 2bx 2c7 2c7 2dc 2dg 2f0 2f0 2f2 2fq 2g2 2g3 2gx 2gz 2ik 2ik 2im 2ja 2jm 2jn",
  "2k3 2kj 2m3 2m4 2m6 2ml 2mv 2mv 2n6 2n7 2o1 2o3 2q2 2qn 2r6 2r7 2sx 2sx 2t0 2t6 2tj 2tq 2wh",
  "2wh 2wk 2ws 2x4 2xa 2zc 2zd 305 305 307 307 309 309 30e 30f 31t 32c 32e 32f 32l 33w 346 346",
  "36z 37i 386 389 38e 38g 38i 38k 38n 38t 38x 390 39e 39p 39r 39r 3a2 3a5 3tp 3tr 4k2 4k5 4ky",
  "4l0 4lu 4lv 4mq 4mr 4om 4pf 4pp 4pp 4ud 4ue 4vd 4vd 4yo 4zf 55j 55n 579 58f 59s 5am 5c0 5c4",
  "5dg 5dw 5ez 5f7 5fk 5fm 5gh 5gt 5ie 5ir 5k4 5kn 5ow 5oy 5p0 5pk 5pp 5pp 5pw 5pw 5pz 5q1 5vk",
  "5xb 6hc 6i8 8vj 8vl 8zj 8zj 928 933 9ii 9in 9ll 9lm wvj wvm wvo wvx wwu wwv wz4 wz5 x6q x6q",
  "x6u x6u x6z x6z x7n x7r x7w x7w xa8 xa9 xbo xc5 xcw xdd xdr xdr xeu xf1 xfr xg3 xhc xhf xir",
  "xj4 xk5 xk5 xm1 xme xmr xmr xn0 xn1 xob xod xps xps xpu xpw xpz xq0 xq6 xq7 xq9 xq9 xrf xrj",
  "xrp xrq xyb xyi xyk xyl 1dlq 1dlq 1e74 1e7j 1eyl 1eyl 1f4w 1f4w 1f92 1f96 1gjl 1gjz 1gl4 1glb",
  "1gpx 1gpy 1h5w 1h5z 1hgr 1hgs 1hj1 1hj3 1hl2 1hlc 1hmq 1hmt 1hq8 1hqa 1hrs 1hs6 1htc 1htc 1htf",
  "1htg 1htr 1htu 1hv4 1hve 1hvm 1hvm 1hxc 1hxe 1hyf 1hys 1hz9 1hza 1i0j 1i0j 1i0w 1i0y 1i2b 1i2o",
  "1i2x 1i30 1i32 1i33 1i5o 1i5z 1i66 1i66 1i69 1i69 1ian 1iay 1ibk 1ibn 1id7 1id8 1ida 1idp 1idz",
  "1idz 1iea 1ies 1ik5 1ikm 1ila 1ila 1ink 1io3 1iun 1iv4 1ivw 1ivx 1iy8 1iyo 1j1n 1j1z 1j4t 1j57",
  "1jcc 1jcq 1jjk 1jjy 1jk0 1jk0 1jk2 1jk3 1jo1 1jog 1jok 1jok 1jpd 1jpm 1jqr 1jqx 1jqz 1jr2 1jrb",
  "1jrb 1jrl 1jrv 1jt6 1jtl 1k4v 1k5b 1k7m 1k8m 1kc1 1kcl 1kcn 1kcn 1kei 1kev 1koj 1kom 1kow 1kox",
  "1koz 1koz 1kqc 1kqq 1ow0 1ow0 1ow7 1owl 1zow 1zp0 1zqo 1zqu 20jz 20jz 20k1 20lu 20o4 20oh 2ftp",
  "2ftq 2jgg 2jie 2jxh 2jxl 2jxp 2jya 2jyd 2jyj 2jze 2jzh 2k3m 2k3o 2lmo 2lo6 2lob 2lpo 2lpx 2lpx",
  "2lqc 2lqc 2lqz 2lrj 2mtc 2mxb 2n1s 2n1y 2nce 2nce 2ne4 2ne7 2nsc 2nsf 2ok0 2ok6 2on8 2one"]

/-- Holds of marks. -/
def isMark (c : Char) : Bool :=
  Table.isInRanges markRanges c.toNat

end ContractSuite.Domain
