import ContractSuite.Domain.Table

namespace ContractSuite.Domain

/-- Ranges of marks and their classes: the first mark, the last mark, the class. Characters that are in no
range are of class zero; they are no marks that move. -/
def markClasses : List Nat := Table.numbers [
  "lc lw 6e lx lx 6g ly m1 64 m2 m2 6g m3 m3 60 m4 m8 64 m9 ma 5m mb me 64 mf mg 5m mh mr 64 ms",
  "mw 1 mx n0 64 n1 na 6e nb nd 64 ne ng 6e nh ni 64 nk nm 6e nn nq 64 nr nr 6e ns ns 6g nt nu 64",
  "nv nv 6e nw nw 6h nx ny 6i nz nz 6h o0 o1 6i o2 o2 6h o3 of 6e w3 w7 6e 13l 13l 64 13m 13p 6e",
  "13q 13q 64 13r 13t 6e 13u 13u 66 13v 13v 64 13w 141 6e 142 147 64 148 149 6e 14a 14a 64 14b",
  "14c 6e 14d 14d 66 14e 14e 6c 14f 14f 6e 14g 14g a 14h 14h b 14i 14i c 14j 14j d 14k 14k e 14l",
  "14l f 14m 14m g 14n 14n h 14o 14o i 14p 14q j 14r 14r k 14s 14s l 14t 14t m 14v 14v n 14x 14x",
  "o 14y 14y p 150 150 6e 151 151 64 153 153 i 174 17b 6e 17c 17c u 17d 17d v 17e 17e w 18r 18r r",
  "18s 18s s 18t 18t t 18u 18u u 18v 18v v 18w 18w w 18x 18x x 18y 18y y 18z 190 6e 191 192 64",
  "193 197 6e 198 198 64 199 19a 6e 19b 19b 64 19s 19s z 1cm 1cs 6e 1cv 1cy 6e 1cz 1cz 64 1d0 1d0",
  "6e 1d3 1d4 6e 1d6 1d6 64 1d7 1d8 6e 1d9 1d9 64 1e9 1e9 10 1f4 1f4 6e 1f5 1f5 64 1f6 1f7 6e 1f8",
  "1f8 64 1f9 1fa 6e 1fb 1fd 64 1fe 1fe 6e 1ff 1fg 64 1fh 1fh 6e 1fi 1fi 64 1fj 1fl 6e 1fm 1fm 64",
  "1fn 1fn 6e 1fo 1fo 64 1fp 1fp 6e 1fq 1fq 64 1fr 1fr 6e 1fs 1fs 64 1ft 1fu 6e 1kb 1kh 6e 1ki",
  "1ki 64 1kj 1kj 6e 1kt 1kt 64 1li 1ll 6e 1ln 1lv 6e 1lx 1lz 6e 1m1 1m5 6e 1nd 1nf 64 1p4 1p4 6e",
  "1p5 1p7 64 1p8 1pb 6e 1qi 1qm 6e 1qn 1qr 64 1qs 1r5 6e 1r7 1r7 64 1r8 1r9 6e 1ra 1ra 64 1rb",
  "1rc 6e 1rd 1rd 64 1re 1rg 6e 1rh 1rj 64 1rk 1rk r 1rl 1rl s 1rm 1rm t 1rn 1rp 6e 1rq 1rq 64",
  "1rr 1rs 6e 1rt 1ru 64 1rv 1rz 6e 1to 1to 7 1u5 1u5 9 1u9 1u9 6e 1ua 1ua 64 1ub 1uc 6e 1x8 1x8",
  "7 1xp 1xp 9 1z2 1z2 6e 20s 20s 7 219 219 9 24c 24c 7 24t 24t 9 27w 27w 7 28d 28d 9 2bx 2bx 9",
  "2f0 2f0 7 2fh 2fh 9 2fp 2fp 2c 2fq 2fq 2j 2ik 2ik 7 2j1 2j1 9 2m3 2m4 9 2ml 2ml 9 2q2 2q2 9",
  "2t4 2t5 2v 2t6 2t6 9 2tk 2tn 2z 2wo 2wp 3a 2wq 2wq 9 2x4 2x7 3e 2zc 2zd 64 305 305 64 307 307",
  "64 309 309 60 31t 31t 3l 31u 31u 3m 31w 31w 3o 322 325 3m 328 328 3m 32a 32b 6e 32c 32c 9 32e",
  "32f 6e 346 346 64 37b 37b 7 37d 37e 9 39p 39p 64 3tp 3tr 6e 4k4 4k5 9 4l0 4l0 9 4pe 4pe 9 4pp",
  "4pp 6e 4vd 4vd 6c 4zd 4zd 66 4ze 4ze 6e 4zf 4zf 64 55j 55j 6e 55k 55k 64 57k 57k 9 585 58c 6e",
  "58f 58f 64 59s 59w 6e 59x 5a2 64 5a3 5a4 6e 5a5 5a5 64 5a7 5a8 64 5a9 5aa 6e 5ab 5ac 64 5ad",
  "5ah 6e 5ai 5ai 64 5aj 5am 6e 5dg 5dg 7 5dw 5dw 9 5ez 5ez 6e 5f0 5f0 64 5f1 5f7 6e 5gq 5gr 9",
  "5ie 5ie 7 5iq 5ir 9 5kn 5kn 7 5ow 5oy 6e 5p0 5p0 1 5p1 5p5 64 5p6 5p7 6e 5p8 5pb 64 5pc 5pc 6e",
  "5pe 5pk 1 5pp 5pp 64 5pw 5pw 6e 5q0 5q1 6e 5vk 5vl 6e 5vm 5vm 64 5vn 5vt 6e 5vu 5vu 64 5vv 5vw",
  "6e 5vx 5vx 6i 5vy 5vy 5y 5vz 5vz 64 5w0 5w0 5m 5w1 5x1 6e 5x2 5x2 6g 5x3 5x4 6c 5x5 5x5 64 5x6",
  "5x6 62 5x7 5x7 6e 5x8 5x8 6h 5x9 5x9 64 5xa 5xa 6e 5xb 5xb 64 6hc 6hd 6e 6he 6hf 1 6hg 6hj 6e",
  "6hk 6hm 1 6hn 6ho 6e 6ht 6ht 6e 6hx 6hy 1 6hz 6hz 6e 6i0 6i0 64 6i1 6i1 6e 6i2 6i3 1 6i4 6i7",
  "64 6i8 6i8 6e 8vj 8vl 6e 8zj 8zj 9 928 933 6e 9ii 9ii 62 9ij 9ij 6c 9ik 9ik 6g 9il 9il 66 9im",
  "9in 68 9ll 9lm 8 wvj wvj 6e wvo wvx 6e wwu wwv 6e wz4 wz5 6e x6u x6u 9 x7w x7w 9 xc4 xc4 9 xcw",
  "xdd 6e xez xf1 64 xg3 xg3 9 xir xir 7 xj4 xj4 9 xps xps 6e xpu xpv 6e xpw xpw 64 xpz xq0 6e",
  "xq6 xq7 6e xq9 xq9 6e xrq xrq 9 xyl xyl 9 1dlq 1dlq q 1e74 1e7a 6e 1e7b 1e7h 64 1e7i 1e7j 6e",
  "1eyl 1eyl 64 1f4w 1f4w 64 1f92 1f96 6e 1gjx 1gjx 64 1gjz 1gjz 6e 1gl4 1gl4 6e 1gl5 1gl5 1 1gl6",
  "1gl6 64 1glb 1glb 9 1gpx 1gpx 6e 1gpy 1gpy 64 1h5w 1h5z 6e 1hgr 1hgs 6e 1hj1 1hj3 64 1hl2 1hl3",
  "64 1hl4 1hl6 6e 1hl7 1hl7 64 1hl8 1hl8 6e 1hl9 1hlc 64 1hmq 1hmq 6e 1hmr 1hmr 64 1hms 1hms 6e",
  "1hmt 1hmt 64 1hs6 1hs6 9 1htc 1htc 9 1htr 1htr 9 1hvd 1hvd 9 1hve 1hve 7 1hxc 1hxe 6e 1hyr",
  "1hys 9 1i0j 1i0j 7 1i2o 1i2o 9 1i2y 1i2y 7 1i5x 1i5x 9 1i5y 1i5y 7 1iax 1iax 7 1iay 1iay 9",
  "1id7 1id8 7 1idp 1idp 9 1iee 1ies 6e 1iki 1iki 9 1ikm 1ikm 7 1ila 1ila 6e 1io2 1io2 9 1io3",
  "1io3 7 1iv3 1iv3 9 1iv4 1iv4 7 1iyn 1iyn 9 1j1y 1j1y 9 1j1z 1j1z 7 1j57 1j57 9 1jcp 1jcp 9",
  "1jcq 1jcq 7 1jjx 1jjy 9 1jk3 1jk3 7 1jog 1jog 9 1jqs 1jqs 9 1jrb 1jrb 9 1jtl 1jtl 9 1k5b 1k5b",
  "9 1kci 1kci 7 1kck 1kcl 9 1kev 1kev 9 1kqp 1kqq 9 1zow 1zp0 1 1zqo 1zqu 6e 20og 20oh 6 2ftq",
  "2ftq 1 2jxh 2jxi 60 2jxj 2jxl 1 2jxp 2jxp 6a 2jxq 2jxu 60 2jy3 2jya 64 2jyd 2jyh 6e 2jyi 2jyj",
  "64 2jze 2jzh 6e 2k3m 2k3o 6e 2mtc 2mxb 6e 2n1s 2n1y 6e 2nce 2nce 6e 2ne4 2ne7 6e 2nsc 2nsd 6g",
  "2nse 2nse 64 2nsf 2nsf 6e 2ok0 2ok6 64 2on8 2ond 6e 2one 2one 7"]

/-- Compositions: two characters, and the one that they make. -/
def compositions : List Nat := Table.numbers [
  "2p lc 68 2p ld 69 2p le 6a 2p lf 6b 2p lk 6c 2p lm 6d 2r mf 6f 2t lc 6g 2t ld 6h 2t le 6i 2t",
  "lk 6j 2x lc 6k 2x ld 6l 2x le 6m 2x lk 6n 32 lf 6p 33 lc 6q 33 ld 6r 33 le 6s 33 lf 6t 33 lk",
  "6u 39 lc 6x 39 ld 6y 39 le 6z 39 lk 70 3d ld 71 3d lk 73 2p lg 75 2p li 77 2p mg 79 2r ld 7b",
  "2r le 7d 2r lj 7f 2r lo 7h 2s lo 7j 2t lg 7n 2t li 7p 2t lj 7r 2t mg 7t 2t lo 7v 2v le 7x 2v",
  "li 7z 2v lj 81 2v mf 83 2w le 85 2x lf 89 2x lg 8b 2x li 8d 2x mg 8f 2y le 8l 2z mf 8n 30 ld",
  "8q 30 mf 8s 30 lo 8u 32 ld 90 32 mf 92 32 lo 94 33 lg 99 33 li 9b 33 ln 9d 36 ld 9h 36 mf 9j",
  "36 lo 9l 37 ld 9n 37 le 9p 37 mf 9r 37 lo 9t 38 mf 9v 38 lo 9x 39 lf a1 39 lg a3 39 li a5 39",
  "lm a7 39 ln a9 39 mg ab 3b le ad 3d le af 3e ld ai 3e lj ak 3e lo am 33 m3 bl 39 m3 c0 2p lo",
  "cu 2x lo cw 33 lo cy 39 lo d0 70 lg d2 70 ld d4 70 lo d6 70 lc d8 6c lg db fb lg dd 6e lg df",
  "2v lo dj 2z lo dl 33 mg dn dn lg dp ia lo dr 2y lo ds 2v ld dx 32 lc e1 6d ld e3 6e ld e5 6w",
  "ld e7 2p lr e9 2p lt eb 2t lr ed 2t lt ef 2x lr eh 2x lt ej 33 lr el 33 lt en 36 lr ep 36 lt",
  "er 39 lr et 39 lt ev 37 me ex 38 me ez 2w lo f3 2p lj fb 2t mf fd 6u lg ff 6t lg fh 33 lj fj",
  "fj lg fl 3d lg fn qy ld pc q9 ld q4 qd ld q5 qf ld q6 qh ld q7 qz ld q8 qh lk qy qt lk qz qn",
  "ld r0 qt ld r1 qx ld r2 u0 li u1 tx lc uo tx lk up tv ld ur uu lk uv u2 ld v0 u0 lc v1 ub li",
  "v2 vp lr vr ty li xu ts li y9 ts lk yb tx li yf yh lk yj ty lk yl tz lk yn u0 lg yr u0 lk yt",
  "u6 lk yv yx lk yz ul lk z1 ub lg z3 ub lk z5 ub ln z7 uf lk z9 uj lk zd 17r 18z 17m 17r 190",
  "17n 18o 190 17o 17r 191 17p 18q 190 17q 1cl 190 1c0 1c1 190 1c2 1ci 190 1cj 1t4 1to 1t5 1tc",
  "1to 1td 1tf 1to 1tg 1xj 1xa 1xn 1xj 1xz 1xo 287 28m 288 287 27y 28b 287 28n 28c 2aa 2c7 2ac",
  "2bq 2bi 2bu 2br 2bi 2bv 2bq 2c7 2bw 2fa 2fq 2fc 2in 2j9 2io 2iu 2j9 2iv 2iu 2ja 2iw 2iu 2iq",
  "2iy 2iy 2j9 2iz 2me 2m6 2mi 2mf 2m6 2mj 2me 2mv 2mk 2qh 2q2 2qi 2qh 2q7 2qk 2qk 2q2 2ql 2qh",
  "2qn 2qm 36t 372 36u 5c5 5dh 5c6 5c7 5dh 5c8 5c9 5dh 5ca 5cb 5dh 5cc 5cd 5dh 5ce 5ch 5dh 5ci",
  "5dm 5dh 5dn 5do 5dh 5dp 5dq 5dh 5ds 5dr 5dh 5dt 5du 5dh 5dv 2p md 5xd 2q lj 5xf 2q mb 5xh 2q",
  "mp 5xj 6f ld 5xl 2s lj 5xn 2s mb 5xp 2s mp 5xr 2s mf 5xt 2s ml 5xv 7n lc 5xx 7n ld 5xz 2t ml",
  "5y1 2t mo 5y3 fd li 5y5 2u lj 5y7 2v lg 5y9 2w lj 5yb 2w mb 5yd 2w lk 5yf 2w mf 5yh 2w mm 5yj",
  "2x mo 5yl 6n ld 5yn 2z ld 5yp 2z mb 5yr 2z mp 5yt 30 mb 5yv 5yv lg 5yx 30 mp 5yz 30 ml 5z1 31",
  "ld 5z3 31 lj 5z5 31 mb 5z7 32 lj 5z9 32 mb 5zb 32 mp 5zd 32 ml 5zf 6t ld 5zh 6t lk 5zj 99 lc",
  "5zl 99 ld 5zn 34 ld 5zp 34 lj 5zr 36 lj 5zt 36 mb 5zv 5zv lg 5zx 36 mp 5zz 37 lj 601 37 mb 603",
  "9n lj 605 9t lj 607 603 lj 609 38 lj 60b 38 mb 60d 38 mp 60f 38 ml 60h 39 mc 60j 39 mo 60l 39",
  "ml 60n a1 ld 60p a3 lk 60r 3a lf 60t 3a mb 60v 3b lc 60x 3b ld 60z 3b lk 611 3b lj 613 3b mb",
  "615 3c lj 617 3c lk 619 3d lj 61b 3e le 61d 3e mb 61f 3e mp 61h 2w mp 61i 38 lk 61j 3b lm 61k",
  "3d lm 61l 2p mb 61t 2p ll 61v 6a ld 61x 6a lc 61z 6a ll 621 6a lf 623 61t le 625 77 ld 627 77",
  "lc 629 77 ll 62b 77 lf 62d 61t li 62f 2t mb 62h 2t ll 62j 2t lf 62l 6i ld 62n 6i lc 62p 6i ll",
  "62r 6i lf 62t 62h le 62v 2x ll 62x 2x mb 62z 33 mb 631 33 ll 633 6s ld 635 6s lc 637 6s ll 639",
  "6s lf 63b 631 le 63d bl ld 63f bl lc 63h bl ll 63j bl lf 63l bl mb 63n 39 mb 63p 39 ll 63r c0",
  "ld 63t c0 lc 63v c0 ll 63x c0 lf 63z c0 mb 641 3d lc 643 3d mb 645 3d ll 647 3d lf 649 q9 lv",
  "64g q9 lw 64h 64g lc 64i 64h lc 64j 64g ld 64k 64h ld 64l 64g n6 64m 64h n6 64n qd lv 64w qd",
  "lw 64x 64w lc 64y 64x lc 64z 64w ld 650 64x ld 651 qf lv 65c qf lw 65d 65c lc 65e 65d lc 65f",
  "65c ld 65g 65d ld 65h 65c n6 65i 65d n6 65j qh lv 65s qh lw 65t 65s lc 65u 65t lc 65v 65s ld",
  "65w 65t ld 65x 65s n6 65y 65t n6 65z qn lv 668 qn lw 669 668 lc 66a 669 lc 66b 668 ld 66c 669",
  "ld 66d qt lv 66o qt lw 66p 66o lc 66q 66p lc 66r 66o ld 66s 66p ld 66t 66o n6 66u 66p n6 66v",
  "qx lv 674 qx lw 675 674 lc 676 675 lc 677 674 ld 678 675 ld 679 674 n6 67a 675 n6 67b q9 lc",
  "67k qd lc 67m qf lc 67o qh lc 67q qn lc 67s qt lc 67u qx lc 67w q9 li 69c q9 lg 69d q9 n6 69i",
  "qf n6 69y qh li 6a8 qh lg 6a9 qy lc 6aa qh n6 6ae qy n6 6af qt li 6ao qt lg 6ap qz lc 6aq qp",
  "lv 6as qp lw 6at qt n6 6au qz n6 6av qx n6 6ba 6mo mw 6my 6mq mw 6mz 6ms mw 6ni 6og mw 6od 6ok",
  "mw 6oe 6oi mw 6of 6pv mw 6pw 6q0 mw 6q1 6q3 mw 6q4 6qr mw 6qs 6qt mw 6qu 6rg mw 6rl 6rn mw 6ro",
  "6rp mw 6rr 6rs mw 6rt 1p mw 6sg 6sh mw 6si 6rx mw 6st 1o mw 6su 1q mw 6sv 6sk mw 6sw 6sl mw",
  "6sx 6sy mw 6t0 6sz mw 6t1 6t2 mw 6t4 6t3 mw 6t5 6t6 mw 6tc 6t7 mw 6td 6te mw 6tg 6tf mw 6th",
  "6ti mw 6tk 6tj mw 6tl 6ua mw 6uk 6ug mw 6ul 6uh mw 6um 6uj mw 6un 6t8 mw 6w0 6t9 mw 6w1 6tt mw",
  "6w2 6tu mw 6w3 6uq mw 6wa 6ur mw 6wb 6us mw 6wc 6ut mw 6wd 9jf 9ll 9jg 9jh 9ll 9ji 9jj 9ll 9jk",
  "9jl 9ll 9jm 9jn 9ll 9jo 9jp 9ll 9jq 9jr 9ll 9js 9jt 9ll 9ju 9jv 9ll 9jw 9jx 9ll 9jy 9jz 9ll",
  "9k0 9k1 9ll 9k2 9k4 9ll 9k5 9k6 9ll 9k7 9k8 9ll 9k9 9kf 9ll 9kg 9kf 9lm 9kh 9ki 9ll 9kj 9ki",
  "9lm 9kk 9kl 9ll 9km 9kl 9lm 9kn 9ko 9ll 9kp 9ko 9lm 9kq 9kr 9ll 9ks 9kr 9lm 9kt 9ja 9ll 9lg",
  "9lp 9ll 9lq 9m3 9ll 9m4 9m5 9ll 9m6 9m7 9ll 9m8 9m9 9ll 9ma 9mb 9ll 9mc 9md 9ll 9me 9mf 9ll",
  "9mg 9mh 9ll 9mi 9mj 9ll 9mk 9ml 9ll 9mm 9mn 9ll 9mo 9mp 9ll 9mq 9ms 9ll 9mt 9mu 9ll 9mv 9mw",
  "9ll 9mx 9n3 9ll 9n4 9n3 9lm 9n5 9n6 9ll 9n7 9n6 9lm 9n8 9n9 9ll 9na 9n9 9lm 9nb 9nc 9ll 9nd",
  "9nc 9lm 9ne 9nf 9ll 9ng 9nf 9lm 9nh 9ly 9ll 9o4 9nz 9ll 9o7 9o0 9ll 9o8 9o1 9ll 9o9 9o2 9ll",
  "9oa 9od 9ll 9oe 1huh 1hve 1hui 1huj 1hve 1huk 1hut 1hve 1huz 1hyp 1hyf 1hym 1hyq 1hyf 1hyn",
  "1idj 1ida 1idn 1idj 1idz 1ido 1int 1inu 1inv 1int 1ink 1inw 1int 1inx 1iny 1iuw 1iun 1iuy 1iux",
  "1iun 1iuz 1jjp 1jjk 1jjs"]

/-- The class of a character. -/
def markClass (c : Char) : Nat :=
  (Table.ofRange? markClasses c.toNat).getD 0

/-- The first of the syllables that are composed of letters by a rule. -/
def syllables : Nat := 0xAC00

/-- The first of the letters with which a syllable starts. -/
def leadingLetters : Nat := 0x1100

/-- The first of the letters that come second in a syllable. -/
def vowelLetters : Nat := 0x1161

/-- The code point before the first of the letters that come third. It stands for no third letter. -/
def trailingLetters : Nat := 0x11A7

/-- The two characters of which a syllable consists. -/
def syllableParts? (n : Nat) : Option (Nat × Nat) :=
  if syllables ≤ n ∧ n < syllables + 19 * 21 * 28 then
    let index := n - syllables
    if index % 28 = 0 then
      some (leadingLetters + index / (21 * 28), vowelLetters + index / 28 % 21)
    else some (n - index % 28, trailingLetters + index % 28)
  else none

/-- The syllable that two characters make. -/
def syllableOf? (a b : Nat) : Option Nat :=
  if leadingLetters ≤ a ∧ a < leadingLetters + 19 ∧ vowelLetters ≤ b ∧ b < vowelLetters + 21 then
    some (syllables + ((a - leadingLetters) * 21 + (b - vowelLetters)) * 28)
  else if syllables ≤ a ∧ a < syllables + 19 * 21 * 28 ∧ (a - syllables) % 28 = 0 ∧
      trailingLetters < b ∧ b < trailingLetters + 28 then
    some (a + (b - trailingLetters))
  else none

/-- The two characters of which a character consists, by a table of compositions. -/
def partsIn? : List Nat → Nat → Option (Nat × Nat)
  | a :: b :: whole :: more, n => if whole = n then some (a, b) else partsIn? more n
  | _, _ => none

/-- The character that two characters make, by a table of compositions. -/
def wholeIn? : List Nat → Nat → Nat → Option Nat
  | x :: y :: whole :: more, a, b => if x = a ∧ y = b then some whole else wholeIn? more a b
  | _, _, _ => none

/-- The character that two characters make. -/
def joined? (a b : Char) : Option Char :=
  ((syllableOf? a.toNat b.toNat).or (wholeIn? compositions a.toNat b.toNat)).map Char.ofNat

/-- A character taken apart once. -/
def takenApart (c : Char) : List Char :=
  match (syllableParts? c.toNat).or (partsIn? compositions c.toNat) with
  | some (a, b) => [Char.ofNat a, Char.ofNat b]
  | none => [c]

/-- How often a character can be taken apart one part after another. -/
def compositionDepth : Nat := 3

/-- A text with all characters taken apart. -/
def decompose (s : List Char) : List Char :=
  go compositionDepth s
where
  go : Nat → List Char → List Char
    | 0, s => s
    | depth + 1, s => go depth (s.flatMap takenApart)

/-- Puts a character in front of a text whose marks are in order, behind the marks of lower classes. -/
def insertMark (c : Char) : List Char → List Char
  | [] => [c]
  | d :: rest =>
    if 0 < markClass d ∧ markClass d < markClass c then d :: insertMark c rest else c :: d :: rest

/-- A text with its marks in the order of their classes. Marks of one class stay as they are. -/
def orderMarks (s : List Char) : List Char :=
  s.foldr insertMark []

/-- A text that is being composed: what is finished, with the last character first, and behind it a
character that can be joined with later ones, with the marks that could not be joined with it. -/
structure Composing where
  finished : List Char := []
  base : Option Char := none
  marks : List Char := []

/-- The text composed so far, with the last character first. -/
def Composing.reversed (s : Composing) : List Char :=
  s.marks ++ s.base.toList ++ s.finished

/-- Holds when nothing stands between the base and a character that could be joined with it. -/
def Composing.reaches (s : Composing) (c : Char) : Bool :=
  match s.marks with
  | [] => true
  | last :: _ => markClass last < markClass c

/-- Adds a character to a text that is being composed. -/
def Composing.add (s : Composing) (c : Char) : Composing :=
  match s.base.bind fun base => if s.reaches c then joined? base c else none with
  | some whole => { s with base := some whole }
  | none =>
    if markClass c = 0 then { finished := s.reversed, base := some c }
    else { s with marks := c :: s.marks }

/-- The composed form of a text. -/
def compose (s : List Char) : List Char :=
  ((orderMarks (decompose s)).foldl Composing.add {}).reversed.reverse

end ContractSuite.Domain
