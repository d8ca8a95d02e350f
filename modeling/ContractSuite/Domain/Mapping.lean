import ContractSuite.Domain.Table

namespace ContractSuite.Domain

/-- Runs of characters that are replaced by runs: the first character, how many there are, how far each is
from the next, and the replacement of the first. -/
def movedRuns : List Nat := Table.numbers [
  "1t q 1 2p 4y 2 1 1e 5c n 1 68 60 7 1 6w 74 o 2 75 8k 2 2 8l 8p 3 2 8q 8x 4 2 8y 96 n 2 97 ah 3",
  "2 ai aq 2 2 ar ax 2 1 gm bk 3 2 bl c1 2 1 i2 c3 2 2 c4 ct 8 2 cu da 9 2 db e0 k 2 e1 f6 9 2 f7",
  "g6 5 2 g7 j4 2 2 2w n4 2 1 lc og 2 2 oh p4 3 1 q5 pa 2 1 r1 pd h 1 q9 pv 9 1 qr rc c 2 rd sd 3",
  "1 or sg g 1 uo sw w 1 ts v4 h 2 v5 wa r 2 wb xt 7 2 xu y8 1c 2 y9 10x 12 1 129 3a8 12 1 8w0",
  "3y0 6 1 3xs 5mr 2 1 u9 5n4 17 1 3bk 5od 3 1 3ct 5ri 2 2 2q 5rl 5 2 2t 5ro 4 2 2w 5s0 2 1 38",
  "5s4 2 1 gg 5s8 2 1 2s 5sb 2 1 gr 5sg 2 2 31 5sk 2 1 5qu 5sn 2 1 38 5st 3 1 qa 5sw 2 1 qu 5t0 2",
  "1 39 5t2 2 1 qa 5t5 2 1 qu 5us 3 1 h4 5v2 4 1 he 5v7 2 1 hu 5va 2 1 i1 5vd 2 1 i3 5vg 3 1 i8",
  "5xc 23 2 5xd 61s 1c 2 61t 64o 8 1 64g 654 6 1 64w 65k 8 1 65c 660 8 1 65s 66g 6 1 668 66x 4 2",
  "66p 67c 8 1 674 69k 2 1 69c 6a0 2 2 67m 6ag 2 1 6a8 6aw 2 1 6ao 6bd 2 2 r0 6es 6 1 1g 6f1 2 1",
  "14 6f4 a 1 1c 6fh 2 1 14 6fq 4 1 2z 6fv 2 1 37 6iy 2 1 2v 6jd 3 1 34 6jw 2 1 2q 6k5 4 1 15c",
  "6ko 2 1 2x 6lp 2 1 2r 6m5 2 1 2r 6y1 2 1 9hk 76o 9 1 1d 792 q 1 2p 79s q 1 2p 8ow 1c 1 8q8 8rr",
  "3 2 8rs 8se 2 1 fz 8sg 1e 2 8sh 8vf 2 2 8vg 9ix 2 1 gg4 9pt 2 1 3cw 9pv 2 2 3hm 9pz 3 1 3cz",
  "9q2 6 1 3hs 9q9 3 1 3d2 9qd a 1 3d5 9qn l 1 3fl 9r9 2 1 3dg 9rb 2 1 3if 9rl 2 1 3dp 9ro 2 1",
  "3du 9rs 5 1 3e3 9s2 2 1 3jl 9s4 3 1 3fb 9s7 2 1 3gk 9sa 2 1 3gx 9y9 2 1 3cy 9yb 3 1 3d1 9yf 2",
  "1 3d7 9yh 5 1 3da a1g 2 1 9m2 a1w 6 1 9my a26 5 1 9ni a2d 6 1 9ns a2j 4 1 9nz wu8 n 2 wu9 ww0",
  "e 2 ww1 x0i 7 2 x0j x0y v 2 x0z x2x 2 2 x2y x32 5 2 x33 x3k 2 2 x3l x3q a 2 x3r x4k 8 2 x4l",
  "x53 2 2 x54 x58 8 2 x59 xv4 28 1 3vk 1dg2 2 1 o0d 1dlu 2 1 15f 1dlw 3 1 15n 1e6r 2 1 1m 1e6v 2",
  "1 9hy 1e7p 2 1 14 1e7t 2 1 9hw 1e7v 2 1 9hs 1e7x 2 1 9hm 1e7z 2 1 9hk 1e81 4 1 9ho 1e8p 2 1 14",
  "1e8t 2 1 9hw 1e8x 2 1 16 1e95 2 1 10 1e9s 2 1 17l 1e9u 2 1 17m 1e9w 2 1 17n 1e9y 2 1 17o 1ea0",
  "2 1 17p 1edd w 1 x 1ee9 q 1 2p 1eez 10 1 2j 1efz 2 1 879 1eg2 2 1 9ho 1egl 2 1 9m2 1eh1 6 1",
  "9my 1ehb 5 1 9ni 1ehi 6 1 9ns 1ehq 2 1 9ll 1eht 2 1 3cw 1ehv 2 2 3hm 1ehz 3 1 3cz 1ei2 6 1 3hs",
  "1ei9 3 1 3d2 1eid a 1 3d5 1eiq 6 1 3fl 1eiy 6 1 3fr 1ej6 6 1 3fx 1eje 3 1 3g3 1ejk 2 1 4i 1ejt",
  "4 1 6mo 1fcw 14 1 1fe0 1fhs 10 1 1fiw 1fn4 j 2 1fo7 1fn5 5 2 1fo8 1fnh 7 2 1fok 1fnx 3 2 1fp0",
  "1g1t 2 1 k0 1g1z 2 2 ir 1g23 2 1 gm 1g2h 2 1 iy 1g2r 2 1 hi 1g2w 2 1 hp 1g37 2 1 ip 1g3a 3 1",
  "cg 1h1c 1f 1 1h34 1h74 m 1 1h80 1jfk w 1 1jgg 20cg w 1 20dc 20f4 p 1 20fv 2j12 q 1 2p 2j1s a 1",
  "1c 2kg0 q 1 2p 2kgq q 1 2p 2khg q 1 2p 2ki6 d 2 2p 2ki7 3 2 2q 2kif 9 2 2y 2kiw q 1 2p 2kjm q",
  "1 2p 2kkc 2 2 2p 2kkl 2 1 2y 2kkp 4 1 32 2kku 8 1 37 2kl2 4 1 2p 2kl7 b 2 2u 2kla 3 2 2x 2kli",
  "5 2 35 2kls q 1 2p 2kmi q 1 2p 2kn8 2 1 2p 2knb 4 1 2s 2knh 8 1 2y 2knq 7 1 37 2kny q 1 2p",
  "2koo 2 1 2p 2kor 4 1 2s 2kow 5 1 2x 2kp6 7 1 37 2kpe q 1 2p 2kq4 q 1 2p 2kqu q 1 2p 2krk q 1",
  "2p 2ksa q 1 2p 2kt0 q 1 2p 2ktq q 1 2p 2kug q 1 2p 2kv6 q 1 2p 2kvw q 1 2p 2kwm q 1 2p 2kxc q",
  "1 2p 2ky2 q 1 2p 2kyw h 1 q9 2kze 7 1 qr 2kzm h 1 q9 2l05 6 1 qs 2l0i h 1 q9 2l10 7 1 qr 2l18",
  "h 1 q9 2l1r 6 1 qs 2l24 h 1 q9 2l2m 7 1 qr 2l2u h 1 q9 2l3d 6 1 qs 2l3q h 1 q9 2l48 7 1 qr",
  "2l4g h 1 q9 2l4z 6 1 qs 2l5c h 1 q9 2l5u 7 1 qr 2l62 h 1 q9 2l6l 6 1 qs 2l72 a 1 1c 2l7c a 1",
  "1c 2l7m a 1 1c 2l7w a 1 1c 2l86 a 1 1c 2muo 9 1 ts 2mux 3 1 u2 2mv0 b 1 u6 2mvc 2 1 ul 2mvl 9",
  "1 ts 2mvu 2 1 u2 2mvw 2 1 u6 2mvz 6 1 ub 2mw5 2 1 ui 2olc y 1 2oma 2pkw 2 1 17r 2pl6 4 1 18j",
  "2plh 2 1 17u 2pm2 4 1 18j 2pmd 2 1 17u 2pmz 2 2 18k 2pnu 2 2 18j 2po5 2 1 17u 2pog 2 1 17r",
  "2pok 2 1 18n 2por 3 1 18k 2pp1 2 1 17u 2ppn 3 1 18k 2ppx 2 1 17u 2q7k q 1 2p 2sc0 a 1 1c 465l",
  "2 1 ged 465s 2 2 ghp 467v 2 2 2z1g 4681 2 1 ijl 46b9 2 1 la2 46dh 2 1 nj2 46i0 2 1 t07"]

/-- Runs of characters with one replacement: the first character, how many there are, how far each is from
the next, and the replacement. -/
def mergedRuns : List Nat := Table.numbers [
  "6bk b 1 w 6j0 3 1 2w 6j4 2 1 2x 6j6 2 1 30 6jg 2 1 36 6jz 2 1 2t 6kd 2 1 qb 6kl 2 1 2s 1d6v 2",
  "1 vj0 1dgd 2 1 prt 1dn4 2 1 19t 1dn6 4 1 1a3 1dna 4 1 1a6 1dne 4 1 1a8 1dni 4 1 1a2 1dnm 4 1",
  "1a7 1dnq 4 1 1a1 1dnu 4 1 1b8 1dny 4 1 1ba 1do2 4 1 1ac 1do6 4 1 1ab 1doa 4 1 1ae 1doe 4 1 1af",
  "1doi 2 1 1al 1dok 2 1 1ak 1dom 2 1 1am 1doo 2 1 1ag 1doq 2 1 1aw 1dos 2 1 1ap 1dou 4 1 1bd",
  "1doy 4 1 1bj 1dp2 4 1 1bn 1dp6 4 1 1bl 1dpa 2 1 1bu 1dpc 4 1 1bv 1dpg 2 1 1c0 1dpi 4 1 1c1",
  "1dpm 4 1 1by 1dpq 2 1 1ci 1dps 2 1 1cj 1dqr 4 1 1bh 1dqv 2 1 1c7 1dqx 2 1 1c6 1dqz 2 1 1c8",
  "1dr2 2 1 1cb 1dr4 2 1 1c5 1dr6 2 1 1c9 1dr8 4 1 1cg 1drc 2 1 18p 1drw 4 1 1cc 1e7n 2 1 2n 1e8d",
  "3 1 2n 1ea2 3 1 17q 1ea5 2 1 17r 1ea7 4 1 17s 1eab 2 1 17t 1ead 4 1 17u 1eah 4 1 17v 1eal 4 1",
  "17w 1eap 4 1 17x 1eat 4 1 17y 1eax 2 1 17z 1eaz 2 1 180 1eb1 2 1 181 1eb3 2 1 182 1eb5 4 1 183",
  "1eb9 4 1 184 1ebd 4 1 185 1ebh 4 1 186 1ebl 4 1 187 1ebp 4 1 188 1ebt 4 1 189 1ebx 4 1 18a",
  "1ec1 4 1 18h 1ec5 4 1 18i 1ec9 4 1 18j 1ecd 4 1 18k 1ech 4 1 18l 1ecl 4 1 18m 1ecp 4 1 18n",
  "1ect 2 1 18o 1ecv 2 1 18p 1ecx 4 1 18q 2l03 2 1 qr 2l1p 2 1 qr 2l3b 2 1 qr 2l4x 2 1 qr 2l6j 2",
  "1 qr 2l6y 2 1 rh 465t 2 2 ghr 466d 2 1 gw4 467e 2 1 i0u 468h 2 1 3035 468k 2 1 isi 4693 2 2",
  "j7w 46cs 2 1 ce0 46e5 2 1 3b1j 46im 2 1 u17"]

/-- Characters with their replacements. -/
def replacedCharacters : List Nat := Table.numbers [
  "4g w 4q 2p 51 qk 55 1d 56 33 ag 73 an 37 ap gj au gk av aw az b0 b2 d9 b3 gp b4 gr b5 b6 b7 gw",
  "b8 gz ba h5 bb h4 bc bd bg hb bh he bj hh bq hs br bs bt hv bw bx by i0 bz c0 c7 ia c8 c9 cc",
  "cd dw dx dy b9 dz cf f4 bi fu 8rp fv fw fx be fy 8rq g1 g2 g3 ao g4 i1 g5 i4 j5 h2 j7 36 j8 hl",
  "j9 hn ja ht jb 3b jc 3d kg gz kh 30 ki 37 kj 3c kk id n7 lv n9 qh ok jd om on ou 1n ov s3 p2",
  "q4 p3 53 p8 r0 r3 rb r4 qa r5 qg r6 qt r7 r1 r8 qz r9 qu ra qo s0 qi s1 qp s2 qr s4 qg s5 qd",
  "s7 s8 s9 qr sa sb xs y7 2z0 2yz 3bb 8x3 3bh 8x9 3cs 3bw 5mo tu 5mp tw 5mq u6 5mt ua 5mu ui 5mv",
  "v7 5mw wuj 5mx 5my 5rg 2p 5rh 6e 5rm d9 5rw 33 5rx f7 5ry 34 5rz 36 5s2 3b 5s3 2p 5s6 5qa 5s7",
  "2q 5sa gp 5sd 2v 5sf 2z 5sh 97 5sj gk 5sm 34 5sp 5r1 5sq hb 5sr 3a 5ss 5r9 5sy 2x 5sz 36 5t4",
  "qp 5tk u5 5uj gi 5uk 2r 5ul gl 5um 6o 5un gs 5uo 2u 5up gv 5uq gx 5ur h1 5uv 5tn 5uw il 5ux h9",
  "5uy 5tx 5uz in 5v0 hd 5v1 hc 5v6 hk 5v9 bv 5vc 5r0 5vf 3e 5vj qg 61n 601 61q 67 67l q4 67n q5",
  "67p q6 67r q7 67t r0 67v r1 67x r2 69m 67k 69n q4 69q qh 6a1 q5 6a3 q6 6ab pc 6ai 67q 6aj q7",
  "6ar q8 6ay 67u 6az r1 6b0 6at 6b3 2o 6bc 67s 6be 67w 6c1 6c0 6cv w 6e7 w 6eo 1c 6ep 2x 6ey 17",
  "6ez 6qa 6f0 1p 6f3 32 6fe 17 6ff 6qa 6fg 1p 6fk 2p 6fl 2t 6fm 33 6fn 3c 6fo gp 6fp 2w 6fu 34",
  "6iq 2r 6iv gr 6j3 87 6j9 32 6jo 3e 6jq qx 6js 3e 6ju 2z 6jv 6d 6k1 2u 6k2 6ku 6k3 31 6k4 33",
  "6k9 2x 6kc qo 6kf qo 6kg 6q9 6kn 2t 6lc 2x 6lg 3a 6ll 3c 6lo 30 6lr 31 6ls 2x 6lw 3a 6m1 3c",
  "6m4 30 6m7 31 6mb 6mc 7ai 1c 8rk 8rl 8rm h7 8rn 5tp 8ro hp 8rx gh 8ry hd 8rz gg 8s0 gi 8s2 8s3",
  "8s5 8s6 8sc 2y 8sd 3a 8vm 8vn 8z3 8yp 97j lal 99v vj3 9a8 feo 9a9 ffs 9aa fg6 9ab fgf 9ac fh5",
  "9ad fid 9ae fik 9af fj4 9ag fju 9ah g1r 9ai g2t 9aj g2z 9ak g3m 9al g46 9am g4r 9an g68 9ao",
  "g6t 9ap g74 9aq gbf 9ar ge1 9as get 9at gey 9au gfs 9av gg1 9aw ggs 9ax gh5 9ay ghu 9az gja",
  "9b0 gjs 9b1 gkj 9b2 h5j 9b3 h7j 9b4 hkb 9b5 hky 9b6 hl6 9b7 hlh 9b8 hlz 9b9 ho3 9ba i1c 9bb",
  "i2o 9bc i60 9bd i6n 9be i76 9bf i7s 9bg i9a 9bh i9d 9bi ijf 9bj ijp 9bk ik1 9bl ike 9bm inm",
  "9bn inu 9bo inz 9bp ir8 9bq iri 9br irv 9bs is3 9bt its 9bu iu9 9bv iur 9bw iwz 9bx jd4 9by",
  "jee 9bz jez 9c0 jzj 9c1 jzo 9c2 k1z 9c3 k2f 9c4 k2s 9c5 k3d 9c6 k4g 9c7 k4l 9c8 kc0 9c9 kco",
  "9ca kdk 9cb l5s 9cc l7m 9cd l89 9ce l9v 9cf laj 9cg las 9ch laz 9ci lcf 9cj lck 9ck ldg 9cl",
  "m7f 9cm mju 9cn mk6 9co mkb 9cp mkf 9cq mkn 9cr ml5 9cs ml7 9ct mng 9cu mtg 9cv mtl 9cw n30",
  "9cx n3a 9cy n4o 9cz n4v 9d0 n54 9d1 n5c 9d2 n7v 9d3 n82 9d4 nee 9d5 nel 9d6 nfy 9d7 ngf 9d8",
  "nhq 9d9 nob 9da noi 9db noz 9dc ny2 9dd o1k 9de o1q 9df o6s 9dg o97 9dh oah 9di okz 9dj ooo",
  "9dk p4m 9dl p5d 9dm p6y 9dn p8d 9do pa9 9dp pak 9dq paq 9dr pbn 9ds pdr 9dt pe1 9du pnn 9dv",
  "pnu 9dw po3 9dx poc 9dy pos 9dz pp7 9e0 ppb 9e1 pri 9e2 prm 9e3 prs 9e4 qj1 9e5 qjv 9e6 qww",
  "9e7 qx8 9e8 qxv 9e9 r5q 9ea r63 9eb r82 9ec r9c 9ed rp3 9ee rpi 9ef rpx 9eg rqw 9eh rrx 9ei",
  "rxg 9ej rxs 9ek rzn 9el s6j 9em s7e 9en sd7 9eo sds 9ep sdx 9eq sk1 9er sp5 9es ssm 9et sss",
  "9eu ssx 9ev tiv 9ew tj4 9ex tng 9ey trq 9ez trt 9f0 tt4 9f1 tw1 9f2 twe 9f3 twi 9f4 twp 9f5",
  "tzf 9f6 u0d 9f7 u0j 9f8 u0x 9f9 u5k 9fa u6z 9fb u73 9fc uc6 9fd uc9 9fe ucs 9ff ujs 9fg ul4",
  "9fh ulb 9fi un9 9fj unj 9fk unm 9fl unw 9fm uoq 9fn uzp 9fo vat 9fp vb3 9fq vc5 9fr vcr 9fs",
  "vcz 9ft vd9 9fu vdd 9fv veh 9fw vel 9fx vf2 9fy vf7 9fz vfk 9g0 vgb 9g1 vgq 9g2 vgy 9g3 vil",
  "9g4 vj0 9g5 vj4 9hc w 9he 1a 9iu 9hu 9iw gg1 9pw 3cy 9py 3hp 9q8 3dm 9qc 3dt 9rd 3ik 9re 3im",
  "9rf 3ir 9rg 3iv 9rh 3ix 9ri 3do 9rj 3j1 9rk 3j3 9rn 3ds 9rq 3dz 9rr 3e1 9rx 3ea 9ry 3ee 9rz",
  "3eo 9s0 3ev 9s1 3f0 9s9 3go 9sc 3h0 9sd 3ha 9se 3hd 9si feo 9sj fik 9sk fex 9sl h5n 9sm fey",
  "9sn ffx 9so fez 9sp n5e 9sq fh5 9sr ffd 9ss fep 9st hm1 9su h80 9sv fju 9xg gun 9xh inw 9xi",
  "k1z 9xj oen 9y8 3cw 9ye 3d5 9ym xz4 9yn yvs 9yo zc4 9yp 108s 9yq 10p4 9yr 115g 9ys 1224 9yt",
  "12ys 9yu 13f4 9yv 14bs 9yw 14s4 9yx 158g 9yy 15os 9yz 1654 9z2 138w 9z4 feo 9z5 fik 9z6 fex",
  "9z7 h5n 9z8 fis 9z9 g31 9za fer 9zb g2z 9zc fh9 9zd gg1 9ze kco 9zf m7f 9zg ldg 9zh kdk 9zi",
  "ssx 9zj h7j 9zk k4l 9zl kkq 9zm kcp 9zn ny6 9zo glp 9zp mm1 9zq rs1 9zr nz1 9zs gc4 9zt o2g",
  "9zu n5j 9zv ho3 9zw six 9zx g16 9zy ghc 9zz lig a00 u11 a01 fm9 a02 g49 a03 l7n a04 fey a05",
  "ffx a06 fez a07 ijq a08 gkz a09 gfv a0a i3b a0b i1y a0c nhf a0d flt a0e rt3 a0f ggk a0g hlo",
  "a1c 9lu a1d 9lw a1e 9ly a1f 9m0 a1i 9m5 a1j 9m7 a1k 9m9 a1l 9mb a1m 9md a1n 9mf a1o 9mh a1p",
  "9mj a1q 9ml a1r 9mn a1s 9mp a1t 9ms a1u 9mu a1v 9mw a22 9n6 a23 9n9 a24 9nc a25 9nf a2b 9no",
  "a2c 9nq wws ui wwt uk x2o x2n x31 5tl x3f x3g x3h h1 x4a h2 x4b gs x4c gx x4d h8 x4e h6 x4g im",
  "x4h hz x4i il x4j xub x50 x3o x51 hu x52 5u6 x57 h0 x5o bf x69 37 x6a 2r x6b 2u x6c 35 x6d x6e",
  "x6g 87 x6h 9f xuk x0n xul xtj xum h7 xun xua xux i5 1d6o rpk 1d6p kc4 1d6q s7e 1d6r rt4 1d6s",
  "lw1 1d6t fg2 1d6u gkl 1d6x hn5 1d6y ssx 1d6z gw7 1d70 hmw 1d71 jcm 1d72 ne1 1d73 p6t 1d74 qin",
  "1d75 qt6 1d76 r20 1d77 sjz 1d78 kxu 1d79 ljv 1d7a mah 1d7b mvy 1d7c q4d 1d7d sq2 1d7e uep 1d7f",
  "fia 1d7g ghh 1d7h l50 1d7i mjf 1d7j qi5 1d7k v8e 1d7l ifk 1d7m m3v 1d7n qfh 1d7o r50 1d7p jih",
  "1d7q pnc 1d7r qvz 1d7s iq2 1d7t kd3 1d7u lm2 1d7v mpo 1d7w slq 1d7x fpi 1d7y g53 1d7z gda 1d80",
  "jwk 1d81 l3n 1d82 mj4 1d83 nhj 1d84 pa9 1d85 qh2 1d86 qjg 1d87 s1b 1d88 tv6 1d89 upb 1d8a v7e",
  "1d8b nt8 1d8c nzz 1d8d otc 1d8e q15 1d8f t1g 1d8g vb3 1d8h rfa 1d8i hjz 1d8j iro 1d8k okg 1d8l",
  "pdq 1d8m mle 1d8n nuy 1d8o rsy 1d8p ttj 1d8q hjs 1d8r i8y 1d8s kyb 1d8t lp6 1d8u lxr 1d8v oq7",
  "1d8w oxj 1d8x tor 1d8y gcy 1d8z pe3 1d90 g64 1d91 g5o 1d92 o4c 1d93 ou6 1d94 q29 1d95 tpx 1d96",
  "rk0 1d97 jin 1d98 kxu 1d99 rge 1d9a fg9 1d9b i5j 1d9c iz6 1d9d mtj 1d9e n74 1d9f gev 1d9g nwb",
  "1d9h fr3 1d9i iw9 1d9j ff1 1d9k lho 1d9l k1k 1d9m opu 1d9n gjn 1d9o hge 1d9p ni9 1d9q q4p 1d9r",
  "re2 1d9s la2 1d9t sds 1d9u lfs 1d9v jjy 1d9w put 1d9x jog 1d9y n6t 1d9z fji 1da0 g2x 1da1 g5l",
  "1da2 kn5 1da3 oo7 1da4 prj 1da5 rf6 1da6 ssv 1da7 gdx 1da8 gn6 1da9 ho3 1daa ir0 1dab k3p 1dac",
  "m4e 1dad nxm 1dae tkd 1daf ui2 1dag vbr 1dah vda 1dai gbf 1daj kau 1dak l87 1dal sbm 1dam ino",
  "1dan j9s 1dao jcw 1dap jve 1daq lyb 1dar mdl 1das n0p 1dat o22 1dau ovo 1dav pdb 1daw s9y 1dax",
  "q9a 1day sgz 1daz t3e 1db0 g7r 1db1 gbn 1db2 gql 1db3 ma0 1db4 r0i 1db5 re2 1db6 iq1 1db7 iyd",
  "1db8 jnf 1db9 l9q 1dba oji 1dbb mt1 1dbc fl0 1dbd h6h 1dbe i5j 1dbf iii 1dbg izg 1dbh muq 1dbi",
  "mzt 1dbj p7e 1dbk pc6 1dbl svo 1dbm tti 1dbn tvs 1dbo u1k 1dbp fpn 1dbq o1a 1dbr ss4 1dbs trs",
  "1dbt j4x 1dbu fie 1dbv fyy 1dbw i5q 1dbx i7z 1dby k2h 1dbz kxu 1dc0 mha 1dc1 ncy 1dc2 q9o 1dc3",
  "sjg 1dc4 vil 1dc5 k94 1dc6 tny 1dc7 gax 1dc8 kfv 1dc9 kj7 1dca lkx 1dcb luk 1dcc mx5 1dcd n6h",
  "1dce nsb 1dcf opc 1dcg u3i 1dch g31 1dci je6 1dcj tq0 1dck fu3 1dcl ie1 1dcm lpm 1dcn sa2 1dco",
  "ivf 1dcp j7o 1dcq kk7 1dcr mtj 1dcs tqe 1dct g89 1dcu glr 1dcv i91 1dcw k5v 1dcx kem 1dcy ko8",
  "1dcz lid 1dd0 mx2 1dd1 naa 1dd2 p6h 1dd3 r0v 1dd4 r1d 1dd5 sss 1dd6 tsy 1dd7 gfz 1dd8 lve 1dd9",
  "gm5 1dda mhc 1ddb n14 1ddc qgq 1ddd tr7 1dde uvr 1ddf vbz 1ddg kgn 1ddh lor 1ddi pns 1ddj o97",
  "1ddk obk 1ddl olu 1ddm mo0 1ddn m8p 1ddo riw 1ddp fk0 1ddq px2 1ddr g8q 1dds g7b 1ddt ip2 1ddu",
  "jir 1ddv onq 1ddw i2t 1ddx ljy 1ddy kac 1ddz saj 1de0 qx8 1de1 tot 1de2 r63 1de3 iqb 1de4 g1s",
  "1de5 gxs 1de8 hga 1dea k8k 1ded g66 1dee mqy 1def ngq 1deg ny4 1deh nz2 1dei nz9 1dej o0f 1dek",
  "tw6 1del on2 1dem p8d 1deo qhe 1deq rg8 1det shk 1deu sn1 1dey u7j 1dez u7w 1df0 u94 1df1 v5g",
  "1df2 sm6 1df3 trr 1df4 fqm 1df5 fzb 1df6 g25 1df7 gcp 1df8 gdg 1df9 ggh 1dfa gwt 1dfb gzq 1dfc",
  "h2g 1dfd hfk 1dfe hig 1dff i90 1dfg i9a 1dfh j2s 1dfi j8o 1dfj j9q 1dfk jci 1dfl k0f 1dfm k4i",
  "1dfn k9d 1dfo kn9 1dfp lmf 1dfq lqy 1dfr lya 1dfs mem 1dft mjv 1dfu mxu 1dfv ntd 1dfw ny6 1dfx",
  "nyh 1dfy nyg 1dfz nyo 1dg0 nyu 1dg1 nz1 1dg4 o5c 1dg5 o75 1dg6 og0 1dg7 ovo 1dg8 ow9 1dg9 oxt",
  "1dga p6a 1dgb pad 1dgc pnx 1dgf q53 1dgg r2o 1dgh r6e 1dgi rgh 1dgj ri1 1dgk rtf 1dgl ruw 1dgm",
  "sdy 1dgn shk 1dgo tsz 1dgp u0v 1dgq u2j 1dgr j1x 1dgs 36cu 1dgt pp4 1dgw ffq 1dgx g51 1dgy g2w",
  "1dgz fpc 1dh0 g1x 1dh1 g3k 1dh2 gcn 1dh3 ge2 1dh4 gwt 1dh5 gut 1dh6 gwp 1dh7 gyq 1dh8 hga 1dh9",
  "hir 1dha hms 1dhb hn8 1dhc huq 1dhd i08 1dhe iqa 1dhf iqh 1dhg iuh 1dhh iwd 1dhi j4o 1dhj j7y",
  "1dhk j60 1dhl j9q 1dhm j8g 1dhn jci 1dho jec 1dhp jpg 1dhq jrw 1dhr jte 1dhs k0m 1dht k8k 1dhu",
  "kd3 1dhv kd7 1dhw keu 1dhx l89 1dhy la2 1dhz lkx 1di0 lwb 1di1 lvv 1di2 lya 1di3 m5a 1di4 mem",
  "1di5 nmv 1di6 mk5 1di7 mnj 1di8 mqy 1di9 n01 1dia n46 1dib n5n 1dic nbx 1did nbz 1die ngq 1dif",
  "nh7 1dig nhw 1dih nka 1dii nk0 1dij nv0 1dik o8h 1dil og0 1dim ol7 1din orf 1dio ovo 1dip p4u",
  "1diq pad 1dir pxu 1dis q27 1dit qrd 1diu r41 1div r5y 1diw r6e 1dix ren 1diy rg8 1diz rez 1dj0",
  "rgh 1dj1 rge 1dj2 rfx 1dj3 ri1 1dj4 rka 1dj5 ruw 1dj6 sag 1dj7 sj6 1dj8 srd 1dj9 sxi 1dja tq4",
  "1djb tsz 1djc tw6 1djd tzv 1dje u0v 1djf u17 1djg u2j 1djh umq 1dji vj0 1djj 313e 1djk 3138",
  "1djl 33dh 1djm brx 1djn cns 1djo cop 1djp 39e1 1djq 3bgw 1djr 3i6r 1djs vgj 1djt vim 1dls 15u",
  "1dlt 15c 1dlz 160 1dm0 162 1dm1 17 1e6o 18 1e6p 9hd 1e6t x 1e6u 1r 1e7l 6c4 1e7m 6c3 1e7r 3f",
  "1e7s 3h 1e87 2j 1e88 2l 1e8g 18 1e8h 9hd 1e8k 1n 1e8l 1m 1e8m 1r 1e8n x 1e8o 6c4 1e8r 3f 1e8s",
  "3h 1e8v z 1e8w 12 1e8z 19 1e90 1o 1e91 1q 1e92 1p 1e94 2k 1e97 1s 1eg1 1a 1eg4 9hd 1eg5 9ob",
  "1eg6 9o2 1eg7 9lt 1eg8 9lv 1eg9 9lx 1ega 9lz 1egb 9m1 1egc 9nn 1egd 9np 1ege 9nr 1egf 9mr 1egg",
  "9oc 1egh 9lu 1egi 9lw 1egj 9ly 1egk 9m0 1egn 9m5 1ego 9m7 1egp 9m9 1egq 9mb 1egr 9md 1egs 9mf",
  "1egt 9mh 1egu 9mj 1egv 9ml 1egw 9mn 1egx 9mp 1egy 9ms 1egz 9mu 1eh0 9mw 1eh7 9n6 1eh8 9n9 1eh9",
  "9nc 1eha 9nf 1ehg 9no 1ehh 9nq 1eho 9nz 1ehp 9o3 1ehw 3cy 1ehy 3hp 1ei8 3dm 1eic 3dt 1ejm 4s",
  "1ejo 4m 1ejp 4l 1ejq 6g9 1ejs 7b6 1ejx 7fk 1ejy 7gr 1fo5 1fp8 1g1v 6e 1g1w ih 1g1x gj 1g20 xuu",
  "1g22 is 1g25 5u9 1g26 go 1g27 gu 1g28 ix 1g29 h0 1g2a gy 1g2b gw 1g2c ij 1g2d 87 1g2e ik 1g2f",
  "h3 1g2g hw 1g2j h8 1g2k 2mmc 1g2l x3i 1g2m ha 1g2n 2mmd 1g2o i6 1g2p 2mme 1g2q 6w 1g2t 35 1g2u",
  "hm 1g2v 2mmg 1g2y hs 1g2z iw 1g30 iu 1g31 xuv 1g32 iv 1g33 i0 1g34 8s1 1g36 i7 1g39 ig 1g3d",
  "2mmi 1g3e 2mn2 2kkf 2s 2kki 2v 2kp2 33 2kys 8h 2kyt fr 2kzd qg 2kzl 6pz 2l0b 6pu 2l0c qd 2l0d",
  "qg 2l0e qi 2l0f qu 2l0g qp 2l0h qo 2l0z qg 2l17 6pz 2l1x 6pu 2l1y qd 2l1z qg 2l20 qi 2l21 qu",
  "2l22 qp 2l23 qo 2l2l qg 2l2t 6pz 2l3j 6pu 2l3k qd 2l3l qg 2l3m qi 2l3n qu 2l3o qp 2l3p qo 2l47",
  "qg 2l4f 6pz 2l55 6pu 2l56 qd 2l57 qg 2l58 qi 2l59 qu 2l5a qp 2l5b qo 2l5t qg 2l61 6pz 2l6r 6pu",
  "2l6s qd 2l6t qg 2l6u qi 2l6v qu 2l6w qp 2l6x qo 2mvb uj 2mve ww9 2mvf yh 2mvg uu 2mvh uw 2mvi",
  "yx 2mvj xb 2mvk y7 2mvy u9 2mw7 wh 2mw8 uu 2mw9 ut 2mwa v3 2mwb x7 2mwc wup 2mwd xd 2pky 17w",
  "2pkz 17z 2pl1 18o 2pl2 182 2pl3 17x 2pl4 187 2pl5 18q 2pla 183 2plb 189 2plc 18h 2pld 185 2ple",
  "18i 2plf 181 2plg 184 2plj 17y 2plk 180 2pll 186 2plm 188 2pln 18a 2plo 19q 2plp 1bu 2plq 1b5",
  "2plr 19r 2plt 17s 2plu 17w 2plw 18n 2plz 17x 2pm1 18q 2pm6 183 2pm7 189 2pm8 18h 2pm9 185 2pma",
  "18i 2pmc 184 2pmf 17y 2pmh 186 2pmj 18a 2pmq 17w 2pmv 17x 2pmx 18q 2pn2 183 2pn3 189 2pn5 185",
  "2pn6 18i 2pn8 184 2pnb 17y 2pnd 186 2pnf 18a 2pnh 1bu 2pnj 19r 2pnl 17s 2pnm 17w 2pno 18n 2pnr",
  "17x 2pns 187 2pnt 18q 2pnx 18m 2pny 183 2pnz 189 2po0 18h 2po1 185 2po2 18i 2po4 184 2po7 17y",
  "2po9 186 2poa 188 2pob 18a 2poc 19q 2poe 1b5 2poi 17w 2poj 17z 2pom 182 2pon 17x 2poo 187 2pop",
  "18q 2pou 183 2pov 189 2pow 18h 2pox 185 2poy 18i 2poz 181 2pp0 184 2pp3 17y 2pp4 180 2pp5 186",
  "2pp6 188 2pp7 18a 2ppd 17s 2ppe 17w 2ppf 17z 2pph 18o 2ppi 182 2ppj 17x 2ppk 187 2ppl 18q 2ppq",
  "183 2ppr 189 2pps 18h 2ppt 185 2ppu 18i 2ppv 181 2ppw 184 2ppz 17y 2pq0 180 2pq1 186 2pq2 188",
  "2pq3 18a 2q7f 2r 2q7g 36 2qde 9md 2qds jez 2qdt i1j 2qdu gjw 2qdv 9mv 2qdw fik 2qdx hlm 2qdy",
  "r8j 2qdz hm1 2qe0 fj8 2qe1 k68 2qe2 mch 2qe3 k2h 2qe4 g99 2qe5 ivg 2qe6 g3x 2qe7 k34 2qe8 g7x",
  "2qe9 oqq 2qea n4v 2qeb rs9 2qec hkg 2qed gmx 2qee lxw 2qef jh1 2qeg jmd 2qeh feo 2qei fex 2qej",
  "si2 2qek ijq 2qel ffx 2qem gkz 2qen jk7 2qeo rxs 2qep jf7 2qeq o01 2qer o6y 2qes glk 2qet lts",
  "2qeu kcp 2qev kco 2qew n5f 2qex gaa 2qey gxi 2qez sp9 2qfk ivr 2qfl gkv 464g fgd 464h fg8 464i",
  "fgh 464j 2tcy 464k fog 464l fqm 464m fqz 464n fsy 464o fwa 464p fx5 464q fzb 464r fyn 464s ae6",
  "464t 2ud6 464u g25 464v g2c 464w g2s 464x g3b 464y 2u58 464z aex 4650 g2v 4651 g3x 4652 2u6j",
  "4653 g47 4654 g4k 4655 fkc 4656 g4s 4657 g51 4658 3ly7 4659 g6t 465a g77 465b afz 465c g8r",
  "465d g92 465e gaa 465f gaf 465g ahh 465h gcn 465i gcp 465j gdg 465k ge2 465n gev 465o gg9 465p",
  "ggh 465q ggq 465r ghf 465w 2v58 465x m7k 465y gju 465z gkf 4660 2vdv 4661 gkr 4662 gkx 4663",
  "gli 4664 gpq 4665 gmw 4666 gnc 4667 go8 4668 gpu 4669 gs6 466a gsw 466b gur 466c gv7 466f gwp",
  "466g gx7 466h gxf 466i gxu 466j h7a 466k gzq 466l h7b 466m h1t 466n h2s 466o g7b 466p hke 466q",
  "hce 466r hdg 466s he5 466t haj 466u hf6 466v hf5 466w hik 466x 2x9g 466y hki 466z hkn 4670 hl2",
  "4671 hlm 4672 hlu 4673 hnm 4674 2xm0 4675 2xnu 4676 hrg 4677 hsr 4678 ht3 4679 hqw 467a huu",
  "467b aum 467c av0 467d hzc 467g 2y88 467h i4j 467i i54 467j i5j 467k i5v 467l 2yhk 467m i67",
  "467n i6e 467o itv 467p i76 467q ayp 467r i8w 467s i9a 467t ibk 467u ia5 467w if7 467y ige 467z",
  "igb 4680 igs 4683 b3j 4684 ikd 4685 ilk 4686 im5 4687 ind 4688 b4y 4689 2zr7 468a b5o 468b ipc",
  "468c ipf 468d ipi 468e iq2 468f 3pg2 468g iri 468j poh 468m b7r 468n 335k 468o 3cgq 468p iua",
  "468q iuj 468r b8j 468s ivu 468t ix9 468u ixj 468v iyh 468w j29 468x bay 468y ba4 468z j2s 4690",
  "30t0 4691 j47 4692 j7s 4694 j7y 4696 j96 4697 j9q 4698 jaq 4699 jac 469a jan 469b jby 469c jci",
  "469d jcm 469e jdc 469f jdn 469g jfh 469h jht 469i jis 469j jm8 469k 31n0 469l jlp 469m jjw",
  "469n jmw 469o jnn 469p jqc 469q 31td 469r js2 469s jph 469t jop 469u bhq 469v ju1 469w jum",
  "469x jvh 469y juf 469z bjg 46a0 k0f 46a1 k18 46a2 32mi 46a3 k4j 46a4 kc8 46a5 k7d 46a6 bo9",
  "46a7 k9d 46a8 bns 46a9 bms 46aa g42 46ab g45 46ac kcg 46ad k9o 46ae pf1 46af deh 46ag kd3 46ah",
  "kd7 46ai kdd 46aj kf2 46ak ker 46al 33cz 46am bpl 46an kje 46ao kg5 46ap klu 46aq kn9 46ar",
  "33hp 46as kni 46at kkf 46au kr8 46av brx 46aw ksi 46ax kv7 46ay kx6 46az l2g 46b0 33xf 46b1",
  "l3v 46b2 bvc 46b3 l5t 46b4 34br 46b5 l78 46b6 bwu 46b7 l82 46b8 l9b 46bb 34p9 46bc 2yvf 46bd",
  "34sa 46be le6 46bf 354s 46bg lhb 46bh lhp 46bi lev 46bj ljq 46bk lku 46bl lmf 46bm lkx 46bn",
  "lm1 46bo lmg 46bp lmt 46bq 357i 46br lkk 46bs lrj 46bt lta 46bu c37 46bv lvv 46bw lvr 46bx",
  "35jl 46by lq1 46bz m0e 46c0 35ni 46c1 35ou 46c2 m2u 46c3 m61 46c4 m5a 46c5 m57 46c6 c5y 46c7",
  "m6i 46c8 m7x 46c9 m7r 46ca m99 46cb 2u5h 46cc mdh 46cd 368z 46ce mfw 46cf 36i3 46cg mjs 46ch",
  "mk5 46ci mkw 46cj 36yw 46ck mm8 46cl mmt 46cm 3779 46cn 37dg 46co mt6 46cp mtn 46cq cdo 46cr",
  "mud 46cu myv 46cv mzg 46cw n01 46cx n0l 46cy n2i 46cz cgr 46d0 n50 46d1 386u 46d2 n5q 46d3",
  "389e 46d4 n74 46d5 2zrz 46d6 nbk 46d7 38v5 46d8 38vs 46d9 38zo 46da cn0 46db cnc 46dc nhw 46dd",
  "394j 46de 394i 46df 395l 46dg 396b 46dj nj3 46dk nka 46dl cop 46dm nm3 46dn cp2 46do cra 46dp",
  "39r1 46dq nri 46dr nt8 46ds nv0 46dt ctf 46du 3a5i 46dv nyu 46dw 3a8q 46dx 3a9x 46dy o0f 46dz",
  "o2z 46e0 cvj 46e1 o5c 46e2 o5m 46e3 o5r 46e4 3at8 46e7 oa6 46e8 d1e 46e9 3b8r 46ea og6 46eb",
  "og9 46ec d2f 46ed 3beo 46ee onm 46ef d5s 46eg oo8 46eh oo3 46ei oow 46ej 3c06 46ek orn 46el",
  "d8h 46em ouf 46en ow2 46eo oxx 46ep d9w 46eq 3ciw 46er 3cjr 46es dax 46et 3cnt 46eu p6i 46ev",
  "3cqm 46ew p79 46ex pa2 46ey pad 46ez 3d22 46f0 3d43 46f1 pcw 46f2 3d7s 46f3 pdc 46f4 33a7 46f5",
  "ded 46f6 pf6 46f7 phf 46f8 dfv 46f9 pj2 46fa hx1 46fb 3dlz 46fc 3dmd 46fd 33bn 46fe 33bw 46ff",
  "poh 46fg pok 46fh sda 46fi dij 46fj psh 46fk psb 46fl pst 46fm gc3 46fn ptd 46fo ptf 46fp ptp",
  "46fq puu 46fr 3ebg 46fs put 46ft pwd 46fu pyb 46fv q0d 46fw pwj 46fx q0t 46fy q1z 46fz q53",
  "46g0 pxv 46g1 q16 46g2 q18 46g3 q1o 46g4 3eie 46g5 3eqz 46g6 3emt 46g7 dnv 46g8 q9d 46g9 q9f",
  "46ga qae 46gb 3g0a 46gc qck 46gd 3f3g 46ge dp9 46gf dpd 46gg 3f75 46gh 3ff6 46gi dpn 46gj qj4",
  "46gk qjg 46gl qjr 46gm qjt 46gn qll 46go qko 46gp qoe 46gq qn6 46gr qrd 46gs qp4 46gt qqz 46gu",
  "qrq 46gv dsn 46gw qu9 46gx qv5 46gy dtl 46gz qxs 46h0 qxv 46h1 3giv 46h2 r13 46h3 r1a 46h4 dv9",
  "46h5 r22 46h6 aez 46h7 3gz2 46h8 3h46 46h9 dz2 46ha dzb 46hb rds 46hc rfx 46hd rka 46he rpx",
  "46hf 3hrc 46hg rsb 46hh rsx 46hi rvf 46hj rxz 46hk 3i9b 46hl 2upw 46hm s0b 46hn rzw 46ho s1c",
  "46hp 2uvy 46hq s7o 46hr sag 46hs 3jki 46ht 3jl9 46hu sk4 46hv smp 46hw snl 46hx 3ju6 46hy snv",
  "46hz svs 46i2 sxo 46i3 t89 46i4 t91 46i5 3ksa 46i6 tjf 46i7 ej9 46i8 tkn 46i9 3l2v 46ia eli",
  "46ib ts3 46ic iia 46id tur 46ie 3ltx 46if 3lzu 46ig epa 46ih epi 46ii u00 46ij 3mdm 46ik er6",
  "46il 3mhi 46io u21 46ip 3mpi 46iq u76 46ir eur 46is u95 46it ucn 46iu ude 46iv uf2 46iw ez2",
  "46ix 3nsg 46iy umq 46iz uv4 46j0 v0d 46j1 f66 46j2 f71 46j3 v3b 46j4 3owe 46j5 f7c 46j6 3oxx",
  "46j7 3p5a 46j8 3p8x 46j9 vcr 46ja f9y 46jb veh 46jc vem 46jd vet 46je vf3 46jf vfa 46jg vgb",
  "46jh 3pxc"]

/-- Characters with their replacements that are longer: the character, how many replace it, and these. -/
def expandedCharacters : List Nat := Table.numbers [
  "4o 2 w lk 4v 2 w lg 50 2 w ld 54 2 w mf 58 3 1d 6dg 1g 59 3 1d 6dg 1e 5a 3 1f 6dg 1g 8g 2 2x",
  "lj 8i 2 2x 2y 8j 2 2x 2y 8v 2 30 53 8w 2 30 53 95 2 jg 32 ck 2 2s am cl 2 2s am cm 2 2s am cn",
  "2 30 2y co 2 30 2y cp 2 30 2y cq 2 32 2y cr 2 32 2y cs 2 32 2y dt 2 2s 3e du 2 2s 3e dv 2 2s",
  "3e k8 2 w li k9 2 w lj ka 2 w lm kb 2 w mg kc 2 w lf kd 2 w ln n8 2 lk ld oq 2 w qh p0 2 w ld",
  "p1 3 w lk ld 13b 2 12d 136 19x 2 17r 19w 19y 2 18o 19w 19z 2 1c7 19w 1a0 2 18q 19w 1ug 2 1sl",
  "1to 1uh 2 1sm 1to 1ui 2 1sn 1to 1uj 2 1ss 1to 1uk 2 1sx 1to 1ul 2 1sy 1to 1um 2 1t7 1to 1un 2",
  "1tb 1to 1y4 2 1wh 1x8 1y5 2 1wi 1x8 1y7 2 1wv 1x8 20j 2 20i 20s 20m 2 20o 20s 21l 2 1zq 20s",
  "21m 2 1zr 20s 21n 2 1zw 20s 21q 2 20b 20s 28s 2 275 27w 28t 2 276 27w 2sz 2 2tp 2sy 2wj 2 2x9",
  "2wi 2xo 2 2wb 2vt 2xp 2 2wb 2w1 30j 2 30i 33r 30t 2 30s 33r 30y 2 30x 33r 313 2 312 33r 318 2",
  "317 33r 31l 2 30g 33p 31v 2 31t 31u 31x 2 31t 31w 31y 2 33m 328 31z 3 33m 31t 328 320 2 33n",
  "328 321 3 33n 31t 328 329 2 31t 328 32r 2 32q 33r 331 2 330 33r 336 2 335 33r 33b 2 33a 33r",
  "33g 2 33f 33r 33t 2 32o 33p 61m 2 2p ji 680 2 64g qh 681 2 64h qh 682 2 64i qh 683 2 64j qh",
  "684 2 64k qh 685 2 64l qh 686 2 64m qh 687 2 64n qh 688 2 64g qh 689 2 64h qh 68a 2 64i qh 68b",
  "2 64j qh 68c 2 64k qh 68d 2 64l qh 68e 2 64m qh 68f 2 64n qh 68g 2 65c qh 68h 2 65d qh 68i 2",
  "65e qh 68j 2 65f qh 68k 2 65g qh 68l 2 65h qh 68m 2 65i qh 68n 2 65j qh 68o 2 65c qh 68p 2 65d",
  "qh 68q 2 65e qh 68r 2 65f qh 68s 2 65g qh 68t 2 65h qh 68u 2 65i qh 68v 2 65j qh 68w 2 674 qh",
  "68x 2 675 qh 68y 2 676 qh 68z 2 677 qh 690 2 678 qh 691 2 679 qh 692 2 67a qh 693 2 67b qh 694",
  "2 674 qh 695 2 675 qh 696 2 676 qh 697 2 677 qh 698 2 678 qh 699 2 679 qh 69a 2 67a qh 69b 2",
  "67b qh 69e 2 67k qh 69f 2 q9 qh 69g 2 q4 qh 69j 2 69i qh 69o 2 q9 qh 69p 2 w lv 69r 2 w lv 69s",
  "2 w n6 69t 3 w lk n6 69u 2 67o qh 69v 2 qf qh 69w 2 q6 qh 69z 2 69y qh 6a4 2 qf qh 6a5 3 w lv",
  "lc 6a6 3 w lv ld 6a7 3 w lv n6 6al 3 w lw lc 6am 3 w lw ld 6an 3 w lw n6 6b1 3 w lk lc 6b2 3 w",
  "lk ld 6b6 2 67w qh 6b7 2 qx qh 6b8 2 r2 qh 6bb 2 6ba qh 6bg 2 qx qh 6bh 2 w ld 6bi 2 w lw 6c7",
  "2 w mr 6cz 2 6cy 6cy 6d0 3 6cy 6cy 6cy 6d2 2 6d1 6d1 6d3 3 6d1 6d1 6d1 6d8 2 x x 6da 2 w lh",
  "6dj 2 1r 1r 6dk 2 1r x 6dl 2 x 1r 6dz 4 6cy 6cy 6cy 6cy 6g8 2 36 37 6io 3 2p 1b 2r 6ip 3 2p 1b",
  "37 6ir 2 4w 2r 6it 3 2r 1b 33 6iu 3 2r 1b 39 6ix 2 4w 2u 6ja 2 32 33 6jk 2 37 31 6jl 3 38 2t",
  "30 6jm 2 38 31 6kb 3 2u 2p 3c 6kw 3 1d 6dg 1j 6kx 3 1d 6dg 1l 6ky 4 1d 6dg 1d 1c 6kz 3 1d 6dg",
  "1f 6l0 3 1e 6dg 1f 6l1 3 1d 6dg 1h 6l2 3 1e 6dg 1h 6l3 3 1f 6dg 1h 6l4 3 1g 6dg 1h 6l5 3 1d",
  "6dg 1i 6l6 3 1h 6dg 1i 6l7 3 1d 6dg 1k 6l8 3 1f 6dg 1k 6l9 3 1h 6dg 1k 6la 3 1j 6dg 1k 6lb 2",
  "1d 6dg 6ld 2 2x 2x 6le 3 2x 2x 2x 6lf 2 2x 3a 6lh 2 3a 2x 6li 3 3a 2x 2x 6lj 4 3a 2x 2x 2x 6lk",
  "2 2x 3c 6lm 2 3c 2x 6ln 3 3c 2x 2x 6lt 2 2x 2x 6lu 3 2x 2x 2x 6lv 2 2x 3a 6lx 2 3a 2x 6ly 3 3a",
  "2x 2x 6lz 4 3a 2x 2x 2x 6m0 2 2x 3c 6m2 2 3c 2x 6m3 3 3c 2x 2x 6mh 3 1c 6dg 1f 6r0 2 6qz 6qz",
  "6r1 3 6qz 6qz 6qz 6r3 2 6r2 6r2 6r4 3 6r2 6r2 6r2 76x 2 1d 1c 76y 2 1d 1d 76z 2 1d 1e 770 2 1d",
  "1f 771 2 1d 1g 772 2 1d 1h 773 2 1d 1i 774 2 1d 1j 775 2 1d 1k 776 2 1d 1l 777 2 1e 1c 778 3",
  "14 1d 15 779 3 14 1e 15 77a 3 14 1f 15 77b 3 14 1g 15 77c 3 14 1h 15 77d 3 14 1i 15 77e 3 14",
  "1j 15 77f 3 14 1k 15 77g 3 14 1l 15 77h 4 14 1d 1c 15 77i 4 14 1d 1d 15 77j 4 14 1d 1e 15 77k",
  "4 14 1d 1f 15 77l 4 14 1d 1g 15 77m 4 14 1d 1h 15 77n 4 14 1d 1i 15 77o 4 14 1d 1j 15 77p 4 14",
  "1d 1k 15 77q 4 14 1d 1l 15 77r 4 14 1e 1c 15 78c 3 14 2p 15 78d 3 14 2q 15 78e 3 14 2r 15 78f",
  "3 14 2s 15 78g 3 14 2t 15 78h 3 14 2u 15 78i 3 14 2v 15 78j 3 14 2w 15 78k 3 14 2x 15 78l 3 14",
  "2y 15 78m 3 14 2z 15 78n 3 14 30 15 78o 3 14 31 15 78p 3 14 32 15 78q 3 14 33 15 78r 3 14 34",
  "15 78s 3 14 35 15 78t 3 14 36 15 78u 3 14 37 15 78v 3 14 38 15 78w 3 14 39 15 78x 3 14 3a 15",
  "78y 3 14 3b 15 78z 3 14 3c 15 790 3 14 3d 15 791 3 14 3e 15 8b0 4 6qz 6qz 6qz 6qz 8dw 3 1m 1m",
  "1p 8dx 2 1p 1p 8dy 3 1p 1p 1p 8gs 2 8gt mw 9ln 2 w 9ll 9lo 2 w 9lm 9lr 2 9l4 9l6 9of 2 9mb 9mw",
  "9vk 3 14 3cw 15 9vl 3 14 3cy 15 9vm 3 14 3cz 15 9vn 3 14 3d1 15 9vo 3 14 3d2 15 9vp 3 14 3d3",
  "15 9vq 3 14 3d5 15 9vr 3 14 3d7 15 9vs 3 14 3d8 15 9vt 3 14 3da 15 9vu 3 14 3db 15 9vv 3 14",
  "3dc 15 9vw 3 14 3dd 15 9vx 3 14 3de 15 9vy 3 14 xz4 15 9vz 3 14 yvs 15 9w0 3 14 zc4 15 9w1 3",
  "14 108s 15 9w2 3 14 10p4 15 9w3 3 14 115g 15 9w4 3 14 1224 15 9w5 3 14 12ys 15 9w6 3 14 13f4",
  "15 9w7 3 14 14bs 15 9w8 3 14 14s4 15 9w9 3 14 158g 15 9wa 3 14 15os 15 9wb 3 14 1654 15 9wc 3",
  "14 13p8 15 9wd 4 14 1350 13ic 15 9we 4 14 1350 16f8 15 9wg 3 14 feo 15 9wh 3 14 fik 15 9wi 3",
  "14 fex 15 9wj 3 14 h5n 15 9wk 3 14 fis 15 9wl 3 14 g31 15 9wm 3 14 fer 15 9wn 3 14 g2z 15 9wo",
  "3 14 fh9 15 9wp 3 14 gg1 15 9wq 3 14 kco 15 9wr 3 14 m7f 15 9ws 3 14 ldg 15 9wt 3 14 kdk 15",
  "9wu 3 14 ssx 15 9wv 3 14 h7j 15 9ww 3 14 k4l 15 9wx 3 14 kkq 15 9wy 3 14 kcp 15 9wz 3 14 ny6",
  "15 9x0 3 14 glp 15 9x1 3 14 mm1 15 9x2 3 14 rs1 15 9x3 3 14 nz1 15 9x4 3 14 gc4 15 9x5 3 14",
  "fkz 15 9x6 3 14 gos 15 9x7 3 14 i1y 15 9x8 3 14 nhf 15 9x9 3 14 flt 15 9xa 3 14 rt3 15 9xb 3",
  "14 ggk 15 9xc 3 14 nzh 15 9xd 3 14 fm9 15 9xe 3 14 pnu 15 9xf 3 14 po3 15 9xs 3 34 38 2t 9xt 2",
  "1e 1d 9xu 2 1e 1e 9xv 2 1e 1f 9xw 2 1e 1g 9xx 2 1e 1h 9xy 2 1e 1i 9xz 2 1e 1j 9y0 2 1e 1k 9y1",
  "2 1e 1l 9y2 2 1f 1c 9y3 2 1f 1d 9y4 2 1f 1e 9y5 2 1f 1f 9y6 2 1f 1g 9y7 2 1f 1h 9z0 2 14c8 y5c",
  "9z1 2 13p8 13dk a0h 2 1f 1i a0i 2 1f 1j a0j 2 1f 1k a0k 2 1f 1l a0l 2 1g 1c a0m 2 1g 1d a0n 2",
  "1g 1e a0o 2 1g 1f a0p 2 1g 1g a0q 2 1g 1h a0r 2 1g 1i a0s 2 1g 1j a0t 2 1g 1k a0u 2 1g 1l a0v",
  "2 1h 1c a0w 2 1d kco a0x 2 1e kco a0y 2 1f kco a0z 2 1g kco a10 2 1h kco a11 2 1i kco a12 2 1j",
  "kco a13 2 1k kco a14 2 1l kco a15 3 1d 1c kco a16 3 1d 1d kco a17 3 1d 1e kco a18 2 2w 2v a19",
  "3 2t 36 2v a1a 2 2t 3a a1b 3 30 38 2s a2n 2 fl0 gp8 a2o 4 9lu 9n5 9oc 9mw a2p 4 9lu 9nv 9n9",
  "9lt a2q 4 9lu 9o3 9ne 9lu a2r 3 9lu 9oc 9nv a2s 4 9lw 9mz 9o3 9m8 a2t 3 9lw 9o3 9mp a2u 3 9ly",
  "9m1 9o3 a2v 5 9m0 9mh 9m7 9oc 9mx a2w 4 9m0 9oc 9m3 9oc a2x 3 9m2 9o3 9mh a2y 3 9m2 9oc 9nk",
  "a2z 3 9m3 9lw 9nu a30 4 9m3 9nt 9mr 9mw a31 4 9m3 9nx 9nu 9oc a32 3 9m4 9nx 9o3 a33 3 9m4 9o3",
  "9ni a34 2 9m6 9m4 a35 3 9m6 9mz 9oc a36 4 9m5 9np 9nu 9oc a37 4 9m6 9nv 9mo 9oc a38 2 9m5 9nx",
  "a39 5 9m5 9nx 9m8 9nt 9nk a3a 6 9m5 9nx 9nl 9oc 9mw 9nv a3b 5 9m5 9nx 9nz 9mr 9mw a3c 3 9m8",
  "9nt 9nk a3d 5 9m8 9nt 9nk 9mw 9o3 a3e 5 9m7 9nv 9mk 9lw 9nx a3f 4 9m7 9nx 9oc 9n1 a3g 3 9m9",
  "9oc 9mh a3h 3 9mb 9nv 9my a3i 3 9mb 9oc 9nh a3j 4 9md 9lw 9m7 9nv a3k 5 9md 9o3 9mp 9oc 9nk",
  "a3l 4 9mf 9nu 9o3 9m8 a3m 3 9mj 9o3 9mp a3n 3 9mj 9o3 9mw a3o 3 9mo 9oc 9mh a3p 2 9mv 9mf a3q",
  "2 9mx 9nv a3r 2 9mw 9o3 a3s 2 9my 9n2 a3t 3 9n2 9mr 9mw a3u 3 9n3 9lw 9ms a3v 5 9n5 9oc 9mj",
  "9o3 9mw a3w 3 9n5 9oc 9ms a3x 4 9n4 9oc 9nw 9nv a3y 5 9n8 9lu 9mh 9mw 9nv a3z 3 9n8 9m7 9nv",
  "a40 2 9n8 9mb a41 2 9n7 9nv a42 5 9n9 9lt 9nt 9mr 9mx a43 4 9n9 9lv 9oc 9mw a44 5 9na 9mr 9mf",
  "9lz 9nv a45 3 9n9 9nt 9o3 a46 5 9nc 9m7 9mn 9oc 9nv a47 2 9ne 9ml a48 3 9ne 9mz 9n6 a49 3 9nc",
  "9nv 9ms a4a 3 9ne 9o3 9mh a4b 3 9ne 9oc 9mg a4c 3 9nd 9oc 9mn a4d 4 9nh 9lw 9o3 9mw a4e 3 9ng",
  "9nv 9mw a4f 2 9nf 9o3 a4g 3 9nh 9o3 9mx a4h 3 9nf 9oc 9nv a4i 3 9nf 9oc 9o3 a4j 4 9ni 9lw 9m7",
  "9nx a4k 3 9ni 9lw 9nv a4l 3 9ni 9mr 9n3 a4m 3 9ni 9nv 9m7 a4n 5 9ni 9o3 9mf 9nr 9o3 a4o 4 9nj",
  "9m7 9nx 9o3 a4p 2 9nj 9nu a4q 5 9nj 9nu 9n4 9oc 9nv a4r 2 9nl 9m4 a4s 4 9nl 9m4 9mw 9o3 a4t 4",
  "9nl 9oc 9mw 9nv a4u 3 9no 9oc 9mx a4v 3 9no 9oc 9nv a4w 3 9nq 9lu 9o3 a4x 4 9nu 9mr 9mw 9nv",
  "a4y 2 9nu 9nt a4z 3 9nv 9n8 9oc a50 4 9nv 9oc 9na 9nv a51 2 9nw 9nk a52 5 9nw 9o3 9mw 9ma 9o3",
  "a53 3 9nz 9mr 9mw a54 2 1c m9l a55 2 1d m9l a56 2 1e m9l a57 2 1f m9l a58 2 1g m9l a59 2 1h",
  "m9l a5a 2 1i m9l a5b 2 1j m9l a5c 2 1k m9l a5d 2 1l m9l a5e 3 1d 1c m9l a5f 3 1d 1d m9l a5g 3",
  "1d 1e m9l a5h 3 1d 1f m9l a5i 3 1d 1g m9l a5j 3 1d 1h m9l a5k 3 1d 1i m9l a5l 3 1d 1j m9l a5m",
  "3 1d 1k m9l a5n 3 1d 1l m9l a5o 3 1e 1c m9l a5p 3 1e 1d m9l a5q 3 1e 1e m9l a5r 3 1e 1f m9l",
  "a5s 3 1e 1g m9l a5t 3 2w 34 2p a5u 2 2s 2p a5v 2 2p 39 a5w 3 2q 2p 36 a5x 2 33 3a a5y 2 34 2r",
  "a5z 2 2s 31 a60 3 2s 31 1e a61 3 2s 31 1f a62 2 2x 39 a63 2 inn jdc a64 2 k6l gp8 a65 2 hlz",
  "l7n a66 2 k5q lh7 a67 4 kkq irz fmi ny6 a68 2 34 2p a69 2 32 2p a6a 2 qk 2p a6b 2 31 2p a6c 2",
  "2z 2p a6d 2 2z 2q a6e 2 31 2q a6f 2 2v 2q a6g 3 2r 2p 30 a6h 4 2z 2r 2p 30 a6i 2 34 2u a6j 2",
  "32 2u a6k 2 qk 2u a6l 2 qk 2v a6m 2 31 2v a6n 2 2z 2v a6o 2 2w 3e a6p 3 2z 2w 3e a6q 3 31 2w",
  "3e a6r 3 2v 2w 3e a6s 3 38 2w 3e a6t 2 qk 30 a6u 2 31 30 a6v 2 2s 30 a6w 2 2z 30 a6x 2 2u 31",
  "a6y 2 32 31 a6z 2 qk 31 a70 2 31 31 a71 2 2r 31 a72 2 2z 31 a73 3 31 31 1e a74 3 2r 31 1e a75",
  "2 31 1e a76 3 2z 31 1e a77 3 31 31 1f a78 3 2r 31 1f a79 2 31 1f a7a 3 2z 31 1f a7b 3 31 6qd",
  "37 a7c 4 31 6qd 37 1e a7d 2 34 2p a7e 3 2z 34 2p a7f 3 31 34 2p a7g 3 2v 34 2p a7h 3 36 2p 2s",
  "a7i 5 36 2p 2s 6qd 37 a7j 6 36 2p 2s 6qd 37 1e a7k 2 34 37 a7l 2 32 37 a7m 2 qk 37 a7n 2 31 37",
  "a7o 2 34 3a a7p 2 32 3a a7q 2 qk 3a a7r 2 31 3a a7s 2 2z 3a a7t 2 31 3a a7u 2 34 3b a7v 2 32",
  "3b a7w 2 qk 3b a7x 2 31 3b a7y 2 2z 3b a7z 2 31 3b a80 2 2z qx a81 2 31 qx a83 2 2q 35 a84 2",
  "2r 2r a85 2 2r 2s a86 4 2r 6qd 2z 2v a88 2 2s 2q a89 2 2v 3d a8a 2 2w 2p a8b 2 2w 34 a8c 2 2x",
  "32 a8d 2 2z 2z a8e 2 2z 31 a8f 2 2z 38 a8g 2 30 31 a8h 2 30 32 a8i 3 30 33 2v a8j 2 30 3c a8k",
  "2 31 2q a8l 3 31 2x 30 a8m 3 31 33 30 a8n 2 34 2w a8p 3 34 34 31 a8q 2 34 36 a8r 2 37 36 a8s 2",
  "37 3a a8t 2 3b 2q a8u 3 3a 6qd 31 a8v 3 2p 6qd 31 a8w 2 1d k4l a8x 2 1e k4l a8y 2 1f k4l a8z 2",
  "1g k4l a90 2 1h k4l a91 2 1i k4l a92 2 1j k4l a93 2 1k k4l a94 2 1l k4l a95 3 1d 1c k4l a96 3",
  "1d 1d k4l a97 3 1d 1e k4l a98 3 1d 1f k4l a99 3 1d 1g k4l a9a 3 1d 1h k4l a9b 3 1d 1i k4l a9c",
  "3 1d 1j k4l a9d 3 1d 1k k4l a9e 3 1d 1l k4l a9f 3 1e 1c k4l a9g 3 1e 1d k4l a9h 3 1e 1e k4l",
  "a9i 3 1e 1f k4l a9j 3 1e 1g k4l a9k 3 1e 1h k4l a9l 3 1e 1i k4l a9m 3 1e 1j k4l a9n 3 1e 1k",
  "k4l a9o 3 1e 1l k4l a9p 3 1f 1c k4l a9q 3 1f 1d k4l a9r 3 2v 2p 30 1dkw 2 2u 2u 1dkx 2 2u 2x",
  "1dky 2 2u 30 1dkz 3 2u 2u 2x 1dl0 3 2u 2u 30 1dl1 2 37 38 1dl2 2 37 38 1dlf 2 12s 12u 1dlg 2",
  "12s 12d 1dlh 2 12s 12j 1dli 2 132 12u 1dlj 2 12s 12l 1dlp 2 15l 14k 1dlr 2 16a 14n 1dm2 2 161",
  "14x 1dm3 2 161 14y 1dm4 3 161 14s 14x 1dm5 3 161 14s 14y 1dm6 2 15c 14n 1dm7 2 15c 14o 1dm8 2",
  "15c 14s 1dm9 2 15d 14s 1dma 2 15e 14s 1dmb 2 15f 14s 1dmc 2 15g 14s 1dmd 2 15h 14s 1dme 2 15i",
  "14s 1dmg 2 15k 14s 1dmh 2 15l 14s 1dmi 2 15m 14s 1dmj 2 15n 14s 1dmk 2 15o 14s 1dmm 2 15q 14s",
  "1dmo 2 15s 14s 1dmp 2 15t 14s 1dmr 2 15v 14s 1dms 2 15w 14s 1dmu 2 15y 14s 1dmv 2 15z 14s 1dmw",
  "2 160 14s 1dmx 2 161 14s 1dmy 2 162 14s 1dmz 2 15h 14p 1dn0 2 15d 14v 1dn1 2 15n 14v 1dn2 2",
  "15w 14v 1dn3 2 15c 15o 1dr1 2 1c7 19w 1dre 2 17q 17r 1drf 2 17q 17r 1drg 2 17q 1cl 1drh 2 17q",
  "1cl 1dri 2 17q 18o 1drj 2 17q 18o 1drk 2 17q 1c7 1drl 2 17q 1c7 1drm 2 17q 1c6 1drn 2 17q 1c6",
  "1dro 2 17q 1c8 1drp 2 17q 1c8 1drq 2 17q 1cg 1drr 2 17q 1cg 1drs 2 17q 1cg 1drt 2 17q 18p 1dru",
  "2 17q 18p 1drv 2 17q 18p 1ds0 2 17q 17w 1ds1 2 17q 17x 1ds2 2 17q 18l 1ds3 2 17q 18p 1ds4 2",
  "17q 18q 1ds5 2 17s 17w 1ds6 2 17s 17x 1ds7 2 17s 17y 1ds8 2 17s 18l 1ds9 2 17s 18p 1dsa 2 17s",
  "18q 1dsb 2 17u 17w 1dsc 2 17u 17x 1dsd 2 17u 17y 1dse 2 17u 18l 1dsf 2 17u 18p 1dsg 2 17u 18q",
  "1dsh 2 17v 17w 1dsi 2 17v 18l 1dsj 2 17v 18p 1dsk 2 17v 18q 1dsl 2 17w 17x 1dsm 2 17w 18l 1dsn",
  "2 17x 17w 1dso 2 17x 18l 1dsp 2 17y 17w 1dsq 2 17y 17x 1dsr 2 17y 18l 1dss 2 183 17w 1dst 2",
  "183 17x 1dsu 2 183 17y 1dsv 2 183 18l 1dsw 2 185 17x 1dsx 2 185 18l 1dsy 2 186 17w 1dsz 2 186",
  "17x 1dt0 2 186 17y 1dt1 2 186 18l 1dt2 2 187 17x 1dt3 2 187 18l 1dt4 2 188 18l 1dt5 2 189 17w",
  "1dt6 2 189 18l 1dt7 2 18a 17w 1dt8 2 18a 18l 1dt9 2 18h 17w 1dta 2 18h 17x 1dtb 2 18h 17y 1dtc",
  "2 18h 18l 1dtd 2 18h 18p 1dte 2 18h 18q 1dtf 2 18i 17x 1dtg 2 18i 18l 1dth 2 18i 18p 1dti 2",
  "18i 18q 1dtj 2 18j 17r 1dtk 2 18j 17w 1dtl 2 18j 17x 1dtm 2 18j 17y 1dtn 2 18j 18k 1dto 2 18j",
  "18l 1dtp 2 18j 18p 1dtq 2 18j 18q 1dtr 2 18k 17w 1dts 2 18k 17x 1dtt 2 18k 17y 1dtu 2 18k 18l",
  "1dtv 2 18k 18p 1dtw 2 18k 18q 1dtx 2 18l 17w 1dty 2 18l 17x 1dtz 2 18l 17y 1du0 2 18l 18l 1du1",
  "2 18l 18p 1du2 2 18l 18q 1du3 2 18m 17w 1du4 2 18m 17x 1du5 2 18m 17y 1du6 2 18m 18l 1du7 2",
  "18m 18p 1du8 2 18m 18q 1du9 2 18n 17w 1dua 2 18n 18l 1dub 2 18n 18p 1duc 2 18n 18q 1dud 2 18q",
  "17w 1due 2 18q 17x 1duf 2 18q 17y 1dug 2 18q 18l 1duh 2 18q 18p 1dui 2 18q 18q 1duj 2 180 19s",
  "1duk 2 181 19s 1dul 2 18p 19s 1dum 3 w 18s 18x 1dun 3 w 18t 18x 1duo 3 w 18u 18x 1dup 3 w 18v",
  "18x 1duq 3 w 18w 18x 1dur 3 w 18x 19s 1dus 2 17q 181 1dut 2 17q 182 1duu 2 17q 18l 1duv 2 17q",
  "18m 1duw 2 17q 18p 1dux 2 17q 18q 1duy 2 17s 181 1duz 2 17s 182 1dv0 2 17s 18l 1dv1 2 17s 18m",
  "1dv2 2 17s 18p 1dv3 2 17s 18q 1dv4 2 17u 181 1dv5 2 17u 182 1dv6 2 17u 18l 1dv7 2 17u 18m 1dv8",
  "2 17u 18p 1dv9 2 17u 18q 1dva 2 17v 181 1dvb 2 17v 182 1dvc 2 17v 18l 1dvd 2 17v 18m 1dve 2",
  "17v 18p 1dvf 2 17v 18q 1dvg 2 18h 18p 1dvh 2 18h 18q 1dvi 2 18i 18p 1dvj 2 18i 18q 1dvk 2 18j",
  "17r 1dvl 2 18j 18k 1dvm 2 18j 18l 1dvn 2 18j 18p 1dvo 2 18j 18q 1dvp 2 18k 18l 1dvq 2 18k 18p",
  "1dvr 2 18k 18q 1dvs 2 18l 17r 1dvt 2 18l 18l 1dvu 2 18m 181 1dvv 2 18m 182 1dvw 2 18m 18l 1dvx",
  "2 18m 18m 1dvy 2 18m 18p 1dvz 2 18m 18q 1dw0 2 18p 19s 1dw1 2 18q 181 1dw2 2 18q 182 1dw3 2",
  "18q 18l 1dw4 2 18q 18m 1dw5 2 18q 18p 1dw6 2 18q 18q 1dw7 2 17q 17w 1dw8 2 17q 17x 1dw9 2 17q",
  "17y 1dwa 2 17q 18l 1dwb 2 17q 18n 1dwc 2 17s 17w 1dwd 2 17s 17x 1dwe 2 17s 17y 1dwf 2 17s 18l",
  "1dwg 2 17s 18n 1dwh 2 17u 17w 1dwi 2 17u 17x 1dwj 2 17u 17y 1dwk 2 17u 18l 1dwl 2 17u 18n 1dwm",
  "2 17v 18l 1dwn 2 17w 17x 1dwo 2 17w 18l 1dwp 2 17x 17w 1dwq 2 17x 18l 1dwr 2 17y 17w 1dws 2",
  "17y 18l 1dwt 2 183 17w 1dwu 2 183 17x 1dwv 2 183 17y 1dww 2 183 18l 1dwx 2 185 17x 1dwy 2 185",
  "17y 1dwz 2 185 18l 1dx0 2 186 17w 1dx1 2 186 17x 1dx2 2 186 17y 1dx3 2 186 18l 1dx4 2 187 17x",
  "1dx5 2 188 18l 1dx6 2 189 17w 1dx7 2 189 18l 1dx8 2 18a 17w 1dx9 2 18a 18l 1dxa 2 18h 17w 1dxb",
  "2 18h 17x 1dxc 2 18h 17y 1dxd 2 18h 18l 1dxe 2 18i 17x 1dxf 2 18i 18l 1dxg 2 18j 17w 1dxh 2",
  "18j 17x 1dxi 2 18j 17y 1dxj 2 18j 18k 1dxk 2 18j 18l 1dxl 2 18k 17w 1dxm 2 18k 17x 1dxn 2 18k",
  "17y 1dxo 2 18k 18l 1dxp 2 18k 18n 1dxq 2 18l 17w 1dxr 2 18l 17x 1dxs 2 18l 17y 1dxt 2 18l 18l",
  "1dxu 2 18m 17w 1dxv 2 18m 17x 1dxw 2 18m 17y 1dxx 2 18m 18l 1dxy 2 18m 18n 1dxz 2 18n 17w 1dy0",
  "2 18n 18l 1dy1 2 18n 19s 1dy2 2 18q 17w 1dy3 2 18q 17x 1dy4 2 18q 17y 1dy5 2 18q 18l 1dy6 2",
  "18q 18n 1dy7 2 17q 18l 1dy8 2 17q 18n 1dy9 2 17s 18l 1dya 2 17s 18n 1dyb 2 17u 18l 1dyc 2 17u",
  "18n 1dyd 2 17v 18l 1dye 2 17v 18n 1dyf 2 183 18l 1dyg 2 183 18n 1dyh 2 184 18l 1dyi 2 184 18n",
  "1dyj 2 18j 18k 1dyk 2 18j 18l 1dyl 2 18k 18l 1dym 2 18m 18l 1dyn 2 18m 18n 1dyo 2 18q 18l 1dyp",
  "2 18q 18n 1dyq 3 18g 18u 18x 1dyr 3 18g 18v 18x 1dys 3 18g 18w 18x 1dyt 2 187 18p 1dyu 2 187",
  "18q 1dyv 2 189 18p 1dyw 2 189 18q 1dyx 2 18a 18p 1dyy 2 18a 18q 1dyz 2 183 18p 1dz0 2 183 18q",
  "1dz1 2 184 18p 1dz2 2 184 18q 1dz3 2 17x 18p 1dz4 2 17x 18q 1dz5 2 17w 18p 1dz6 2 17w 18q 1dz7",
  "2 17y 18p 1dz8 2 17y 18q 1dz9 2 185 18p 1dza 2 185 18q 1dzb 2 186 18p 1dzc 2 186 18q 1dzd 2",
  "184 17w 1dze 2 184 17x 1dzf 2 184 17y 1dzg 2 184 18l 1dzh 2 184 181 1dzi 2 183 181 1dzj 2 185",
  "181 1dzk 2 186 181 1dzl 2 187 18p 1dzm 2 187 18q 1dzn 2 189 18p 1dzo 2 189 18q 1dzp 2 18a 18p",
  "1dzq 2 18a 18q 1dzr 2 183 18p 1dzs 2 183 18q 1dzt 2 184 18p 1dzu 2 184 18q 1dzv 2 17x 18p 1dzw",
  "2 17x 18q 1dzx 2 17w 18p 1dzy 2 17w 18q 1dzz 2 17y 18p 1e00 2 17y 18q 1e01 2 185 18p 1e02 2",
  "185 18q 1e03 2 186 18p 1e04 2 186 18q 1e05 2 184 17w 1e06 2 184 17x 1e07 2 184 17y 1e08 2 184",
  "18l 1e09 2 184 181 1e0a 2 183 181 1e0b 2 185 181 1e0c 2 186 181 1e0d 2 184 17w 1e0e 2 184 17x",
  "1e0f 2 184 17y 1e0g 2 184 18l 1e0h 2 183 18n 1e0i 2 184 18n 1e0j 2 187 18l 1e0k 2 183 17w 1e0l",
  "2 183 17x 1e0m 2 183 17y 1e0n 2 184 17w 1e0o 2 184 17x 1e0p 2 184 17y 1e0q 2 187 18l 1e0r 2",
  "188 18l 1e0s 2 17r 18r 1e0t 2 17r 18r 1e1c 3 17u 17w 18l 1e1d 3 17u 17x 17w 1e1e 3 17u 17x 17w",
  "1e1f 3 17u 17x 18l 1e1g 3 17u 17y 18l 1e1h 3 17u 18l 17w 1e1i 3 17u 18l 17x 1e1j 3 17u 18l 17y",
  "1e1k 3 17w 18l 17x 1e1l 3 17w 18l 17x 1e1m 3 17x 18l 18q 1e1n 3 17x 18l 18p 1e1o 3 183 17x 17w",
  "1e1p 3 183 17w 17x 1e1q 3 183 17w 18p 1e1r 3 183 18l 17x 1e1s 3 183 18l 17x 1e1t 3 183 18l 17w",
  "1e1u 3 183 18l 18l 1e1v 3 183 18l 18l 1e1w 3 185 17x 17x 1e1x 3 185 17x 17x 1e1y 3 185 18l 18l",
  "1e1z 3 184 17x 18l 1e20 3 184 17x 18l 1e21 3 184 17w 18q 1e22 3 184 18l 17y 1e23 3 184 18l 17y",
  "1e24 3 184 18l 18l 1e25 3 184 18l 18l 1e26 3 186 17x 18p 1e27 3 186 17y 18l 1e28 3 186 17y 18l",
  "1e29 3 187 18l 17x 1e2a 3 187 18l 17x 1e2b 3 187 18l 18l 1e2c 3 187 18l 18q 1e2d 3 189 17w 18l",
  "1e2e 3 189 18l 18l 1e2f 3 189 18l 18l 1e2g 3 189 18l 18p 1e2h 3 18a 18l 18l 1e2i 3 18a 18l 18q",
  "1e2j 3 18a 18l 18p 1e2k 3 18h 17y 18l 1e2l 3 18h 17y 18l 1e2m 3 18i 18l 17x 1e2n 3 18i 18l 18l",
  "1e2o 3 18k 17x 18l 1e2p 3 18k 17x 18q 1e2q 3 18k 17x 18p 1e2r 3 18k 17w 17w 1e2s 3 18k 17w 17w",
  "1e2t 3 18k 17y 18l 1e2u 3 18k 17y 18l 1e2v 3 18k 18l 17x 1e2w 3 18k 18l 17x 1e2x 3 18l 17x 17w",
  "1e2y 3 18l 17x 18l 1e2z 3 18l 17x 18q 1e30 3 18l 17w 17x 1e31 3 18l 17w 18l 1e32 3 18l 17y 17w",
  "1e33 3 18l 17y 18l 1e36 3 18l 17w 17y 1e37 3 18n 18l 17w 1e38 3 18n 18l 18l 1e39 3 18m 17x 18l",
  "1e3a 3 18m 17x 18p 1e3b 3 18m 17w 18l 1e3c 3 18m 17w 18l 1e3d 3 18m 17w 18p 1e3e 3 18m 18l 18q",
  "1e3f 3 18m 18l 18p 1e3g 3 18q 18l 18l 1e3h 3 18q 18l 18l 1e3i 3 17s 17y 18q 1e3j 3 17u 17w 18q",
  "1e3k 3 17u 17w 18p 1e3l 3 17u 17y 18q 1e3m 3 17u 17y 18p 1e3n 3 17u 18l 18q 1e3o 3 17u 18l 18p",
  "1e3p 3 17w 18l 18q 1e3q 3 17w 17x 18p 1e3r 3 17w 18l 18p 1e3s 3 183 17y 18p 1e3t 3 185 17x 18q",
  "1e3u 3 184 17x 18q 1e3v 3 186 17x 18q 1e3w 3 18k 17w 18q 1e3x 3 18k 18l 18q 1e3y 3 18q 17x 18q",
  "1e3z 3 18q 17w 18q 1e40 3 18q 18l 18q 1e41 3 18l 18l 18q 1e42 3 18i 18l 18q 1e43 3 18m 17x 18q",
  "1e44 3 18i 18l 17x 1e45 3 18k 17x 18l 1e46 3 189 18l 18q 1e47 3 18j 18l 18q 1e48 3 18m 17w 17x",
  "1e49 3 18l 17y 18q 1e4a 3 18k 17w 18l 1e4b 3 18j 18l 18l 1e4c 3 18k 17w 18l 1e4d 3 18m 17w 17x",
  "1e4e 3 17w 17x 18q 1e4f 3 17x 17w 18q 1e4g 3 18l 17w 18q 1e4h 3 18h 18l 18q 1e4i 3 17s 17x 18q",
  "1e4j 3 18j 18l 18l 1e4k 3 189 17w 18l 1e4l 3 185 18l 18l 1e4m 3 183 17y 18q 1e4n 3 18m 17w 18q",
  "1e5s 3 185 18k 1ci 1e5t 3 18i 18k 1ci 1e5u 4 17r 18k 18k 18n 1e5v 4 17r 18j 17s 181 1e5w 4 18l",
  "17x 18l 17z 1e5x 4 185 18k 189 18l 1e5y 4 181 183 18o 18k 1e5z 4 189 18k 18q 18n 1e60 4 18o",
  "183 18k 18l 1e61 3 185 18k 18p 1e62 i 185 18k 18p w 17r 18k 18k 18n w 189 18k 18q 18n w 18o",
  "183 18k 18l 1e63 8 17w 18k w 17w 18k 17r 18k 18n 1e64 4 181 1cc 17r 18k 1e89 2 w lh 1e8a 2 w",
  "lh 1e8b 2 w lh 1e8c 2 w lh 1e9c 2 w 18r 1e9d 2 18g 18r 1e9e 2 w 18s 1e9g 2 w 18t 1e9i 2 w 18u",
  "1e9j 2 18g 18u 1e9k 2 w 18v 1e9l 2 18g 18v 1e9m 2 w 18w 1e9n 2 18g 18w 1e9o 2 w 18x 1e9p 2 18g",
  "18x 1e9q 2 w 18y 1e9r 2 18g 18y 1ed1 2 18k 17m 1ed2 2 18k 17m 1ed3 2 18k 17n 1ed4 2 18k 17n",
  "1ed5 2 18k 17p 1ed6 2 18k 17p 1ed7 2 18k 17r 1ed8 2 18k 17r 1ejn 2 w lg 2jxa 2 2jx3 2jxh 2jxb",
  "2 2jx4 2jxh 2jxc 3 2jx4 2jxh 2jxq 2jxd 3 2jx4 2jxh 2jxr 2jxe 3 2jx4 2jxh 2jxs 2jxf 3 2jx4 2jxh",
  "2jxt 2jxg 3 2jx4 2jxh 2jxu 2jzv 2 2jzt 2jxh 2jzw 2 2jzu 2jxh 2jzx 3 2jzt 2jxh 2jxq 2jzy 3 2jzu",
  "2jxh 2jxq 2jzz 3 2jzt 2jxh 2jxr 2k00 3 2jzu 2jxh 2jxr 2q69 2 1c 18 2q6a 2 1d 18 2q6b 2 1e 18",
  "2q6c 2 1f 18 2q6d 2 1g 18 2q6e 2 1h 18 2q6f 2 1i 18 2q6g 2 1j 18 2q6h 2 1k 18 2q6i 2 1l 18",
  "2q6o 3 14 2p 15 2q6p 3 14 2q 15 2q6q 3 14 2r 15 2q6r 3 14 2s 15 2q6s 3 14 2t 15 2q6t 3 14 2u",
  "15 2q6u 3 14 2v 15 2q6v 3 14 2w 15 2q6w 3 14 2x 15 2q6x 3 14 2y 15 2q6y 3 14 2z 15 2q6z 3 14",
  "30 15 2q70 3 14 31 15 2q71 3 14 32 15 2q72 3 14 33 15 2q73 3 14 34 15 2q74 3 14 35 15 2q75 3",
  "14 36 15 2q76 3 14 37 15 2q77 3 14 38 15 2q78 3 14 39 15 2q79 3 14 3a 15 2q7a 3 14 3b 15 2q7b",
  "3 14 3c 15 2q7c 3 14 3d 15 2q7d 3 14 3e 15 2q7e 3 9hw 37 9hx 2q7h 2 2r 2s 2q7i 2 3b 3e 2q8a 2",
  "2w 3a 2q8b 2 31 3a 2q8c 2 37 2s 2q8d 2 37 37 2q8e 3 34 34 3a 2q8f 2 3b 2r 2q96 2 31 2r 2q97 2",
  "31 2s 2q98 2 31 36 2qa8 2 2s 2y 2qdc 2 9kr 9jf 2qdd 2 9mb 9mb 2qf4 3 9hw kdo 9hx 2qf5 3 9hw",
  "fex 9hx 2qf6 3 9hw fik 9hx 2qf7 3 9hw i2x 9hx 2qf8 3 9hw m9l 9hx 2qf9 3 9hw jf7 9hx 2qfa 3 9hw",
  "nh3 9hx 2qfb 3 9hw gd9 9hx 2qfc 3 9hw k0n 9hx"]

/-- Ranges of characters that are left out. -/
def ignoredRanges : List Nat := Table.numbers [
  "4t 4t nj nj 3fj 3fk 4ok 4ol 4qz 4r3 6bv 6bv 6e8 6ec 6ei 6en 9r8 9r8 1e68 1e6n 1edb 1edb 1ehs",
  "1ehs 2fts 2ftv 2jxv 2jy2 jo5c jobz"]

/-- Ranges of characters that no domain name contains. Characters with replacements may lie in them. -/
def disallowedRanges : List Nat := Table.numbers [
  "3k 4f oo op ow p9 pu pu 10w 120 13f 13g 13k 13k 154 15b 163 166 16d 16t 17g 17g 1ct 1ct 1e6",
  "1e7 1fv 1fw 1iq 1j3 1kr 1ks 1m6 1m7 1mn 1mn 1ng 1nh 1nj 1nj 1nv 1nz 1ow 1p2 1r6 1r6 1vo 1vo",
  "1vx 1vy 1w1 1w2 1wp 1wp 1wx 1wx 1wz 1x1 1x6 1x7 1xh 1xi 1xl 1xm 1xr 1xy 1y0 1y6 1yc 1yd 1z3",
  "1z4 1z8 1z8 1zf 1zi 1zl 1zm 209 209 20h 20h 20k 20k 20n 20n 20q 20r 20t 20t 20z 212 215 216",
  "21a 21c 21e 21k 21p 21x 22f 22o 22s 22s 232 232 236 236 23t 23t 241 241 244 244 24a 24b 24m",
  "24m 24q 24q 24u 24v 24x 25b 25g 25h 25u 260 268 268 26c 26c 26l 26m 26p 26q 27d 27d 27l 27l",
  "27o 27o 27u 27v 285 286 289 28a 28e 28k 28o 28u 290 291 29k 29t 29w 29w 2a3 2a5 2a9 2a9 2ae",
  "2ag 2aj 2aj 2al 2al 2ao 2aq 2at 2av 2az 2b1 2be 2bh 2bn 2bp 2bt 2bt 2by 2bz 2c1 2c6 2c8 2cl",
  "2d7 2db 2dp 2dp 2dt 2dt 2eh 2eh 2ey 2ez 2f9 2f9 2fd 2fd 2fi 2fo 2fr 2fr 2fv 2fv 2fy 2fz 2g4",
  "2g5 2gg 2gm 2h9 2h9 2hd 2hd 2i1 2i1 2ic 2ic 2ii 2ij 2it 2it 2ix 2ix 2j2 2j8 2jb 2jf 2jj 2jj",
  "2jo 2jp 2k0 2k0 2k4 2kf 2kt 2kt 2kx 2kx 2md 2md 2mh 2mh 2mo 2mr 2n8 2n9 2o0 2o0 2o4 2o4 2on",
  "2op 2pe 2pe 2po 2po 2pq 2pr 2pz 2q1 2q3 2q6 2qd 2qd 2qf 2qf 2qo 2qt 2r4 2r5 2r9 2rk 2t7 2ta",
  "2u4 2v4 2v7 2v7 2v9 2v9 2vf 2vf 2w4 2w4 2w6 2w6 2wu 2wv 2x1 2x1 2x3 2x3 2xb 2xb 2xm 2xn 2xs",
  "2yn 30o 30o 31p 31s 32w 32w 33x 33x 34d 34d 34r 35r 3ba 3bj 3m1 3m1 3m6 3m7 3mf 3mf 3mh 3mh",
  "3mm 3mn 3nt 3nt 3ny 3nz 3ox 3ox 3p2 3p3 3pb 3pb 3pd 3pd 3pi 3pj 3pz 3pz 3rl 3rl 3rq 3rr 3tn",
  "3to 3ul 3un 3ve 3vj 3xy 3y7 4g0 4g0 4gt 4gv 4jd 4jj 4k6 4ke 4l3 4lb 4lw 4m7 4ml 4ml 4mp 4mp",
  "4ms 4n3 4pq 4pr 4q2 4q7 4qi 4qn 4re 4rj 4u1 4u7 4vf 4vj 4xi 4xr 4yn 4yn 4z0 4z3 4zg 4zj 4zl",
  "4zn 50u 50v 511 51b 52k 52n 53e 53j 53v 53x 55o 55p 57j 57j 58d 58e 58q 58v 596 59b 59q 59r",
  "5b2 5b3 5bg 5bz 5e5 5e5 5is 5iz 5ko 5kq 5l6 5l8 5mz 5oc 5oo 5ov 5q3 5q7 652 65b 66e 66n 66w",
  "672 67y 67z 69h 69h 69x 69x 6ac 6ad 6ak 6ak 6b4 6b9 6bj 6bj 6by 6bz 6ck 6cm 6co 6cu 6ed 6fz",
  "6gy 6hb 6i9 6in 6mk 6mn 756 75r 763 78b 8l0 8l1 8vo 8vs 8x2 8x2 8x4 8x8 8xa 8xb 8yw 8z2 8z5",
  "8zi 907 90f 90n 90n 90v 90v 913 913 91b 91b 91j 91j 91r 91r 91z 91z 927 927 95q 96n 97e 97e",
  "99w 9hb 9j4 9j4 9lj 9lk 9og 9ok 9ps 9sf 9uu 9v3 9wf 9wf a82 a8o wi5 wi7 wjr wjz wto wu7 wzc",
  "wzj x5p x68 x7x x7z x8a x8f xa0 xa7 xc6 xcd xcq xcv xg4 xge xh9 xhb xji xji xju xjx xkv xkv",
  "xmf xmn xn2 xn3 xne xnf xqb xqy xrr xs0 xs7 xs8 xsf xsg xsn xsv xt3 xt3 xtb xtb xv0 xv3 xym",
  "xyn xyy xz3 16lg 16lr 16mf 16mi 16nw 1d6n 1dgu 1dlo 1dmf 1dmt 1e4w 1e5r 1e6q 1e73 1e7k 1e7k",
  "1e8i 1e9b 1e9h 1ekf 1eks 1eks 1elj 1elj 1em3 1em3 1em6 1em6 1emm 1emn 1en2 1enz 1erf 1erj 1ern",
  "1erq 1et0 1et2 1evj 1evj 1evx 1evz 1ew1 1exb 1eym 1f27 1f31 1f33 1f4h 1f4v 1f5o 1f5r 1f6s 1f70",
  "1f7v 1f7z 1f97 1f9b 1fa6 1fa6 1fb8 1fbb 1fbq 1fcv 1fha 1fhb 1fhm 1fiv 1fjw 1fjz 1fl4 1flb 1fms",
  "1fn2 1fnf 1fo6 1foi 1foi 1foy 1foy 1fp6 1fp6 1fp9 1fpb 1fqs 1fr3 1fzr 1fzz 1g0m 1g0v 1g14 1g1r",
  "1g1y 1g5b 1g5i 1g5j 1g5l 1g5l 1g6u 1g6u 1g6x 1g6z 1g71 1g72 1g7q 1g7q 1g9r 1g9y 1ga8 1gbj 1gc3",
  "1gc3 1gc6 1gca 1gd8 1gda 1ge2 1ge6 1gey 1gfz 1ghk 1ghn 1gi8 1gi9 1gjo 1gjo 1gjr 1gjv 1gk4 1gk4",
  "1gk8 1gk8 1gl2 1gl3 1gl7 1gla 1gll 1glr 1gm1 1gm7 1go0 1gov 1gpz 1gq2 1gqf 1gqn 1gs6 1gs8 1gt2",
  "1gt3 1gtv 1gtz 1guq 1guw 1gv1 1gvc 1gvk 1gxr 1gzt 1h33 1h4j 1h4p 1h60 1h67 1h6i 1h6n 1h7q 1h7s",
  "1h8m 1h8t 1h8w 1hen 1hfj 1hfj 1hgq 1hgq 1hgu 1hgv 1hgy 1hhd 1hhk 1hhr 1hi1 1hix 1hk8 1hkf 1hlm",
  "1hm7 1hmy 1hnz 1hos 1hpb 1hpz 1hq7 1hse 1hsh 1hti 1htq 1hvh 1hvh 1hvn 1hvz 1hwp 1hwv 1hx6 1hxb",
  "1hyt 1hyt 1hzc 1hzj 1i0n 1i0v 1i3k 1i3k 1i45 1i4f 1i4y 1i4y 1i6a 1i7z 1i87 1i87 1i89 1i89 1i8e",
  "1i8e 1i8u 1i8u 1i96 1i9b 1iaz 1ib3 1ibe 1ibj 1ibo 1ibo 1ibx 1iby 1ic1 1ic2 1icp 1icp 1icx 1icx",
  "1id0 1id0 1id6 1id6 1idh 1idi 1idl 1idm 1idq 1idr 1idt 1idy 1ie0 1ie4 1iec 1ied 1iel 1ien 1iet",
  "1if3 1ife 1ife 1ifg 1ifh 1ifj 1ifj 1igm 1igm 1igx 1igx 1igz 1ih0 1ih2 1ih2 1ih7 1ih7 1ihi 1ihi",
  "1ihl 1ihs 1ihv 1iin 1il8 1il8 1ile 1im7 1io8 1iof 1ioq 1itb 1iuu 1iuv 1ivy 1iwv 1iyt 1iz3 1ize",
  "1izj 1izx 1j0f 1j22 1j27 1j2i 1j2n 1j38 1j3z 1j4r 1j4s 1j58 1j5b 1j5z 1jb3 1jcs 1jfj 1jhv 1ji6",
  "1jif 1jig 1jii 1jij 1jis 1jis 1jiv 1jiv 1jjq 1jjq 1jjt 1jju 1jk7 1jkf 1jkq 1jmn 1jmw 1jmx 1jo8",
  "1jo9 1jol 1jpb 1jrc 1jrj 1jtv 1ju7 1jw9 1jwf 1jwq 1jz3 1jzc 1k1r 1k2q 1k33 1k3e 1k3j 1k3t 1k3t",
  "1k53 1k53 1k5i 1k5r 1k6l 1k6n 1k7k 1k7l 1k88 1k88 1k8n 1kan 1kav 1kav 1kay 1kay 1kc7 1kc9 1kcb",
  "1kcb 1kce 1kce 1kco 1kcv 1kd6 1kdb 1kdi 1kdi 1kdl 1kdl 1ken 1ken 1keq 1keq 1kex 1kf3 1kfe 1kfj",
  "1kgs 1kgv 1kh6 1knz 1kop 1kov 1kpd 1kpd 1kqj 1kql 1krf 1ktr 1ktt 1ku7 1kvm 1kvy 1llm 1lof 1lrj",
  "1lrj 1lrp 1lrz 1lxg 1nyn 1o1f 1o1r 1ovk 1ovz 1owm 1owv 1rzv 1rzz 1sg7 1xq7 1xru 1z3z 1zjt 1zjz",
  "1zkv 1zkv 1zl6 1zl9 1znj 1znj 1znu 1znz 1zou 1zov 1zp2 1zpb 1zra 1zrj 1zru 1zru 1zs2 1zs2 1zso",
  "1zss 1ztc 205b 206y 20cf 20ez 20fu 20gk 20hr 20jv 20jy 20lk 20lq 20m8 20nz 20o5 20of 20on 20ov",
  "26dy 26f2 26fz 26in 26lv 2dbj 2dbo 2dbo 2dbw 2dbw 2dbz 2dbz 2dk3 2dkh 2dkj 2dlb 2dlf 2dlg 2dli",
  "2dlv 2dm0 2dm7 2dx8 2fpb 2fsb 2fsf 2fst 2fsv 2ft5 2ftb 2ftm 2ftn 2ftw 2iv3 2j25 2j27 2jec 2jeh",
  "2jf5 2jfj 2jg1 2jgf 2jhq 2jhr 2jif 2jin 2jlw 2jnj 2jue 2jun 2jvr 2jvs 2k17 2k1r 2k3q 2k73 2k7o",
  "2k7z 2k8k 2k8v 2kbb 2kbj 2kc9 2l71 2lqk 2lqy 2lr4 2lr4 2lrk 2mm7 2mn3 2mn8 2mnf 2mtb 2mtj 2mtj",
  "2mu1 2mu2 2mua 2mua 2mud 2mud 2muj 2mxa 2mxc 2n0f 2n1p 2n1r 2n26 2n27 2n2i 2n2l 2n2o 2nbj 2ncf",
  "2ncv 2nei 2nem 2neo 2nrj 2nsq 2nyn 2nzv 2nzy 2o00 2o5b 2o67 2o67 2o6u 2o71 2o74 2odb 2odj 2odj",
  "2odo 2odo 2odr 2odr 2oe7 2oe7 2ojp 2ojq 2ok7 2olb 2ong 2onj 2onu 2onx 2oo0 2p9s 2pbp 2pds 2pfi",
  "2prj 2prm 2pz3 2q0c 2q0f 2q38 2q3j 2q3z 2q40 2q4g 2q4g 2q4w 2q4w 2q5y 2q68 2qb2 2qcl 2qdf 2qfz",
  "2qg6 2qkf 2rbt 2rbv 2rcd 2rcf 2rct 2rcv 2riy 2rj3 2rjg 2rjj 2rjl 2rjz 2rkc 2rkf 2rm0 2rm7 2rmi",
  "2rmn 2rns 2rnz 2rou 2rov 2rp8 2rpb 2rpe 2rpr 2rq1 2rr3 2s0o 2s0v 2s1a 2s1b 2s1p 2s1r 2s23 2s25",
  "2s3r 2s3r 2s3t 2s3w 2s4d 2s4e 2s4r 2s4u 2s55 2s5b 2s9f 2s9f 2scb 2t4v 3q3k 3q4f 3ti6 3ti7 3xym",
  "3xyn 43q9 43qn 447y 47pb 4bij 4bin 4i2i nvnj"]

/-- The replacement of a character by a table of runs. -/
def ofRuns? (isMoved : Bool) : List Nat → Nat → Option Nat
  | first :: count :: step :: target :: more, n =>
    let distance := n - first
    if first ≤ n ∧ distance % step = 0 ∧ distance / step < count then
      some (if isMoved then target + distance else target)
    else ofRuns? isMoved more n
  | _, _ => none

/-- The replacement of a character by a table of pairs. -/
def ofPairs? : List Nat → Nat → Option Nat
  | c :: target :: more, n => if c = n then some target else ofPairs? more n
  | _, _ => none

/-- The replacement of a character by a table of texts. At first `passed` numbers are passed over. -/
def ofTexts? (passed : Nat) : List Nat → Nat → Option (List Nat)
  | [], _ => none
  | c :: more, n => match passed, more with
    | 0, count :: text => if c = n then some (text.take count) else ofTexts? (count + 1) more n
    | 0, [] => none
    | passed + 1, _ => ofTexts? passed more n

/-- What replaces a character, if it has a replacement. -/
def replacement? (n : Nat) : Option (List Nat) :=
  match (ofRuns? true movedRuns n).or ((ofRuns? false mergedRuns n).or (ofPairs? replacedCharacters n)) with
  | some target => some [target]
  | none => ofTexts? 0 expandedCharacters n

/-- What a character is mapped to, unless it is disallowed. -/
def mapped? (c : Char) : Option (List Char) :=
  let n := c.toNat
  if n < 0x80 then some [c.toLower]
  else match replacement? n with
    | some text => some (text.map Char.ofNat)
    | none =>
      if Table.isInRanges ignoredRanges n then some []
      else if Table.isInRanges disallowedRanges n then none
      else some [c]

/-- Holds of the characters that are mapped to themselves. -/
def isValid (c : Char) : Bool :=
  mapped? c = some [c]

/-- What a text is mapped to, if no character in it is disallowed. -/
def mapText? (s : List Char) : Option (List Char) :=
  (s.mapM mapped?).map List.flatten

end ContractSuite.Domain
