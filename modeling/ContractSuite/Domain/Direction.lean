import ContractSuite.Domain.Table

namespace ContractSuite.Domain

/-- Ranges of letters that are written from the right to the left. -/
def rightRanges : List Nat := Table.numbers [
  "14u 14u 14w 14w 14z 14z 152 152 15c 16c 16w 16w 16z 16z 171 171 17f 18q 19p 19r 19t 1cl 1d1",
  "1d2 1da 1db 1dm 1e8 1ea 1f3 1fx 1id 1ip 1ka 1kk 1kl 1kq 1kq 1ku 1lh 1lm 1lm 1lw 1lw 1m0 1m0",
  "1m8 1nc 1ni 1ou 1pc 1qh 1dpu 1dqa 1e9f 1e9f 1g5c 1gd7 1gdc 1ge7 1gg0 1gjk 1gk0 1gl1 1glc 1gpw",
  "1gq3 1gs5 1gsg 1h5v 1hfk 1hgp 1hgt 1hgx 1hj4 1hl1 1hld 1hmp 1hmu 1hpy 2oe8 2ojz 2oma 2on7 2onf",
  "2pfh"]

/-- Ranges of digits that go with letters written from the right to the left. -/
def arabicNumberRanges : List Nat := Table.numbers [
  "19c 19l 19n 19o 1h68 1h6h 1heo 1hfi"]

/-- Ranges of digits that go with all letters. -/
def europeanNumberRanges : List Nat := Table.numbers [
  "1c 1l 1dc 1dl 1f4x 1f5n"]

/-- Ranges of characters without a direction of their own. -/
def neutralRanges : List Nat := Table.numbers [
  "0 8 e r x 1b 1m 2o 3f 5z 6v 6v jd je jm jz k2 kt kv lb ol ol s6 s6 13e 13j 16u 16v 16x 16y 170",
  "170 172 173 19m 19m 1cu 1cu 1d5 1d5 1km 1kp 1yq 1yr 1yz 1yz 25t 25t 2cz 2d6 2go 2gu 2tb 2tb",
  "30a 30d 3v4 3vd 3y8 3y8 4gr 4gs 4pn 4pn 4q8 4qy 4zk 4zp 53y 54v 6bw 6gw 6is 6kt 6mi 6yd 70b",
  "710 712 752 75s 7mz 7n1 7wf 83k 8lx 8lz 8ov 8v9 8ve 8vt 8vz 934 9hg 9hk 9i8 9io 9io 9iv 9iv",
  "9j1 9j3 9ls 9ls 9ob 9ob 9ts 9ur fcw fen wi8 wjq wst wsv wvn wvn wvy wvz wzk x0h x3c x3c x7s",
  "x7v x88 x89 x9w x9z xuy xuz 1e0u 1e1b 1e4v 1e67 1e85 1e86 1erl 1erl 1etc 1evg 1evk 1ew0 1gdb",
  "1gdb 1gs9 1gsf 1hsi 1ht1 1izk 1izw 1kut 1kvl 20o2 20o2 2k15 2k3l 2k3p 2k3p 2k8w 2kba 2nen 2nen",
  "2prk 2q7j 2q99 2q9b 2qb1 2qb1 2qg0 2rbr 2rbw 2rg6 2rgb 2rox 2rr4 2s0j 2s0w 2s20 2s28 2s3h 2s3j",
  "2s3p 2s3y 2s4b 2s4g 2s4o 2s4w 2say"]

/-- Ranges of marks, which take the direction of the character before them. -/
def attachedRanges : List Nat := Table.numbers [
  "lc of w3 w9 13l 14t 14v 14v 14x 14y 150 151 153 153 174 17e 18r 19b 19s 19s 1cm 1cs 1cv 1d0",
  "1d3 1d4 1d6 1d9 1e9 1e9 1f4 1fu 1ie 1io 1kb 1kj 1kt 1kt 1li 1ll 1ln 1lv 1lx 1lz 1m1 1m5 1nd",
  "1nf 1p4 1pb 1qi 1s2 1tm 1tm 1to 1to 1tt 1u0 1u5 1u5 1u9 1uf 1uq 1ur 1vl 1vl 1x8 1x8 1xd 1xg",
  "1xp 1xp 1ya 1yb 1z2 1z6 20s 20s 20x 21d 228 229 22d 22d 22p 22q 24c 24c 24h 24o 24t 24t 25e",
  "25f 262 269 27w 27w 27z 27z 281 284 28d 28m 28y 28z 29u 29u 2bk 2bk 2bx 2bx 2dc 2dc 2dg 2dg",
  "2f0 2f0 2f2 2f4 2fa 2fq 2g2 2g3 2gx 2gx 2ik 2ik 2j0 2j1 2jm 2jn 2kg 2kh 2m3 2m4 2m9 2mc 2ml",
  "2ml 2n6 2n7 2o1 2o1 2q2 2q2 2qa 2qe 2sx 2sx 2t0 2t6 2tj 2tq 2wh 2wh 2wk 2ws 2x4 2xa 2zc 2zd",
  "305 305 307 307 309 309 31t 326 328 32c 32e 32f 32l 33w 346 346 371 374 376 37b 37d 37e 37h",
  "37i 388 389 38e 38g 38x 390 39e 39e 39h 39i 39p 39p 3a5 3a5 3tp 3tr 4k2 4k4 4ky 4kz 4lu 4lv",
  "4mq 4mr 4on 4ot 4p2 4p2 4p5 4pf 4pp 4pp 4ud 4ue 4vd 4vd 4yo 4yq 4yv 4yw 4z6 4z6 4zd 4zf 55j",
  "55k 55n 55n 57a 57a 57c 57k 57m 57m 57p 57w 583 58f 59s 5am 5c0 5c3 5dg 5dg 5di 5dm 5do 5do",
  "5du 5du 5ez 5f7 5fk 5fl 5gi 5gl 5go 5gp 5gr 5gt 5ie 5ie 5ig 5ih 5il 5il 5in 5ip 5kc 5kj 5km",
  "5kn 5ow 5oy 5p0 5pc 5pe 5pk 5pp 5pp 5pw 5pw 5q0 5q1 5vk 5xb 6hc 6i8 8vj 8vl 8zj 8zj 928 933",
  "9ii 9il 9ll 9lm wvj wvm wvo wvx wwu wwv wz4 wz5 x6q x6q x6u x6u x6z x6z x7p x7q x7w x7w xc4",
  "xc5 xcw xdd xdr xdr xeu xf1 xfr xg1 xhc xhe xir xir xiu xix xj0 xj1 xk5 xk5 xm1 xm6 xm9 xma",
  "xmd xme xmr xmr xn0 xn0 xoc xoc xps xps xpu xpw xpz xq0 xq6 xq7 xq9 xq9 xrg xrh xrq xrq xyd",
  "xyd xyg xyg xyl xyl 1dlq 1dlq 1e74 1e7j 1eyl 1eyl 1f4w 1f4w 1f92 1f96 1gjl 1gjz 1gl4 1glb 1gpx",
  "1gpy 1h5w 1h5z 1hgr 1hgs 1hj1 1hj3 1hl2 1hlc 1hmq 1hmt 1hq9 1hq9 1hrs 1hs6 1htc 1htc 1htf 1htg",
  "1htr 1htt 1hv7 1hva 1hvd 1hve 1hvm 1hvm 1hxc 1hxe 1hyf 1hyj 1hyl 1hys 1i0j 1i0j 1i0w 1i0x 1i2e",
  "1i2m 1i2x 1i30 1i33 1i33 1i5r 1i5t 1i5w 1i5w 1i5y 1i5z 1i66 1i66 1i69 1i69 1ian 1ian 1iar 1iay",
  "1ibk 1ibl 1id7 1id8 1idc 1idc 1iee 1ies 1ik8 1ikf 1iki 1ikk 1ikm 1ikm 1ila 1ila 1inn 1ins 1inu",
  "1inu 1inz 1io0 1io2 1io3 1iuq 1iut 1iv0 1iv1 1iv3 1iv4 1ivw 1ivx 1iyb 1iyi 1iyl 1iyl 1iyn 1iyo",
  "1j1n 1j1n 1j1p 1j1p 1j1s 1j1x 1j1z 1j1z 1j4t 1j4v 1j4y 1j51 1j53 1j57 1jcf 1jcn 1jcp 1jcq 1jjv",
  "1jjw 1jjy 1jjy 1jk3 1jk3 1jo4 1job 1jog 1jog 1jpd 1jpi 1jpl 1jpm 1jqr 1jqw 1jqz 1jr2 1jrb 1jrb",
  "1jrl 1jrq 1jrt 1jrv 1jt6 1jti 1jtk 1jtl 1k4w 1k59 1k7m 1k87 1k8a 1k8g 1k8i 1k8j 1k8l 1k8m 1kc1",
  "1kcl 1kcn 1kcn 1keo 1kep 1ket 1ket 1kev 1kev 1koj 1kok 1kow 1kox 1kqe 1kqi 1kqo 1kqo 1kqq 1kqq",
  "1ow0 1ow0 1ow7 1owl 1zow 1zp0 1zqo 1zqu 20jz 20jz 20lr 20lu 20o4 20o4 2ftp 2ftq 2jgg 2jie 2jxj",
  "2jxl 2jy3 2jya 2jyd 2jyj 2jze 2jzh 2k3m 2k3o 2lmo 2lo6 2lob 2lpo 2lpx 2lpx 2lqc 2lqc 2lqz 2lrj",
  "2mtc 2mxb 2n1s 2n1y 2nce 2nce 2ne4 2ne7 2nsc 2nsf 2ok0 2ok6 2on8 2one"]

/-- The direction of a character. -/
inductive Direction
  | left
  | right
  | arabicNumber
  | europeanNumber
  | neutral
  | attached
  deriving DecidableEq, Repr

/-- The direction of a character. -/
def direction (c : Char) : Direction :=
  let n := c.toNat
  if Table.isInRanges rightRanges n then .right
  else if Table.isInRanges arabicNumberRanges n then .arabicNumber
  else if Table.isInRanges europeanNumberRanges n then .europeanNumber
  else if Table.isInRanges neutralRanges n then .neutral
  else if Table.isInRanges attachedRanges n then .attached
  else .left

/-- Holds of the labels that contain something written from the right to the left. -/
def turnsRight (label : List Char) : Bool :=
  label.any fun c => [Direction.right, .arabicNumber].contains (direction c)

/-- The direction in which a label ends, marks apart. -/
def lastDirection? (directions : List Direction) : Option Direction :=
  (directions.reverse.dropWhile (· = .attached)).head?

/-- Holds of a label that starts with a letter from the right to the left and keeps to it. Of the two kinds
of digits only one may occur. -/
def keepsRight (directions : List Direction) : Bool :=
  !directions.contains .left &&
    (lastDirection? directions).any (fun d => d ≠ .neutral) &&
    !(directions.contains .arabicNumber && directions.contains .europeanNumber)

/-- Holds of a label that starts with a letter from the left to the right and keeps to it. -/
def keepsLeft (directions : List Direction) : Bool :=
  !directions.contains .right && !directions.contains .arabicNumber &&
    (lastDirection? directions).any (fun d => d = .left ∨ d = .europeanNumber)

/-- Holds of a label that keeps to one direction. -/
def keepsDirection (label : List Char) : Bool :=
  let directions := label.map direction
  match directions with
  | [] => true
  | .right :: _ => keepsRight directions
  | .left :: _ => keepsLeft directions
  | _ => false

end ContractSuite.Domain
