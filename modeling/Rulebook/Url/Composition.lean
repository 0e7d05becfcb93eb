import Rulebook.Text.Ranges

namespace Rulebook.Url

open Text

def combiningClasses : Points Nat := .ofRuns [
  "lc l 1 6e 0 0 1 1 6g 0 0 4 1 64 0 0 1 1 6g 0 0 1 1 60 0 0 5 1 64 0 0 2 1 5m 0 0 4 1 64 0 0 2",
  "1 5m 0 0 b 1 64 0 0 5 1 1 0 0 4 1 64 0 0 3 1 6e 0 2 1 1 6e 0 3 1 1 6e 0 0 3 1 64 0 0 3 1 6e",
  "0 0 2 1 64 0 1 3 1 6e 0 0 4 1 64 0 0 1 1 6e 0 0 1 1 6g 0 0 2 1 64 0 0 1 1 6e 0 0 1 1 6h 0 0",
  "2 1 6i 0 0 1 1 6h 0 0 2 1 6i 0 0 1 1 6h 0 0 d 1 6e 0 7n 5 1 6e 0 7d 1 1 64 0 0 4 1 6e 0 0 1",
  "1 64 0 0 3 1 6e 0 0 1 1 66 0 0 1 1 64 0 0 6 1 6e 0 0 6 1 64 0 0 2 1 6e 0 0 1 1 64 0 0 2 1 6e",
  "0 0 1 1 66 0 0 1 1 6c 0 0 1 1 6e 0 0 1 1 a 0 0 1 1 b 0 0 1 1 c 0 0 1 1 d 0 0 1 1 e 0 0 1 1 f",
  "0 0 1 1 g 0 0 1 1 h 0 0 1 1 i 0 0 2 1 j 0 0 1 1 k 0 0 1 1 l 0 0 1 1 m 0 1 1 1 n 0 1 1 1 o 0",
  "0 1 1 p 0 1 1 1 6e 0 0 1 1 64 0 1 1 1 i 0 20 8 1 6e 0 0 1 1 u 0 0 1 1 v 0 0 1 1 w 0 1c 1 1 r",
  "0 0 1 1 s 0 0 1 1 t 0 0 1 1 u 0 0 1 1 v 0 0 1 1 w 0 0 1 1 x 0 0 1 1 y 0 0 2 1 6e 0 0 2 1 64",
  "0 0 5 1 6e 0 0 1 1 64 0 0 2 1 6e 0 0 1 1 64 0 g 1 1 z 0 2t 7 1 6e 0 2 4 1 6e 0 0 1 1 64 0 0",
  "1 1 6e 0 2 2 1 6e 0 1 1 1 64 0 0 2 1 6e 0 0 1 1 64 0 z 1 1 10 0 u 1 1 6e 0 0 1 1 64 0 0 2 1",
  "6e 0 0 1 1 64 0 0 2 1 6e 0 0 3 1 64 0 0 1 1 6e 0 0 2 1 64 0 0 1 1 6e 0 0 1 1 64 0 0 3 1 6e 0",
  "0 1 1 64 0 0 1 1 6e 0 0 1 1 64 0 0 1 1 6e 0 0 1 1 64 0 0 1 1 6e 0 0 1 1 64 0 0 2 1 6e 0 4g 7",
  "1 6e 0 0 1 1 64 0 0 1 1 6e 0 9 1 1 64 0 o 4 1 6e 0 1 9 1 6e 0 1 3 1 6e 0 1 5 1 6e 0 17 3 1",
  "64 0 1o 1 1 6e 0 0 3 1 64 0 0 4 1 6e 0 16 5 1 6e 0 0 5 1 64 0 0 e 1 6e 0 1 1 1 64 0 0 2 1 6e",
  "0 0 1 1 64 0 0 2 1 6e 0 0 1 1 64 0 0 3 1 6e 0 0 3 1 64 0 0 1 1 r 0 0 1 1 s 0 0 1 1 t 0 0 3 1",
  "6e 0 0 1 1 64 0 0 2 1 6e 0 0 2 1 64 0 0 5 1 6e 0 1o 1 1 7 0 g 1 1 9 0 3 1 1 6e 0 0 1 1 64 0",
  "0 2 1 6e 0 2v 1 1 7 0 g 1 1 9 0 1c 1 1 6e 0 1p 1 1 7 0 g 1 1 9 0 32 1 1 7 0 g 1 1 9 0 32 1 1",
  "7 0 g 1 1 9 0 3j 1 1 9 0 32 1 1 7 0 g 1 1 9 0 7 1 1 2c 0 0 1 1 2j 0 2t 1 1 7 0 g 1 1 9 0 31",
  "2 1 9 0 g 1 1 9 0 3g 1 1 9 0 31 2 1 2v 0 0 1 1 9 0 d 4 1 2z 0 30 2 1 3a 0 0 1 1 9 0 d 4 1 3e",
  "0 24 2 1 64 0 r 1 1 64 0 1 1 1 64 0 1 1 1 60 0 1j 1 1 3l 0 0 1 1 3m 0 1 1 1 3o 0 5 4 1 3m 0",
  "2 1 1 3m 0 1 2 1 6e 0 0 1 1 9 0 1 2 1 6e 0 1q 1 1 64 0 34 1 1 7 0 1 2 1 9 0 2a 1 1 64 0 jz 3",
  "1 6e 0 qc 2 1 9 0 u 1 1 9 0 4d 1 1 9 0 a 1 1 6e 0 5n 1 1 6c 0 3z 1 1 66 0 0 1 1 6e 0 0 1 1",
  "64 0 63 1 1 6e 0 0 1 1 64 0 1z 1 1 9 0 k 8 1 6e 0 2 1 1 64 0 1c 5 1 6e 0 0 6 1 64 0 0 2 1 6e",
  "0 0 1 1 64 0 1 2 1 64 0 0 2 1 6e 0 0 2 1 64 0 0 5 1 6e 0 0 1 1 64 0 0 4 1 6e 0 2t 1 1 7 0 f",
  "1 1 9 0 12 1 1 6e 0 0 1 1 64 0 0 7 1 6e 0 1i 2 1 9 0 1m 1 1 7 0 b 2 1 9 0 1v 1 1 7 0 48 3 1",
  "6e 0 1 1 1 1 0 0 5 1 64 0 0 2 1 6e 0 0 4 1 64 0 0 1 1 6e 0 1 7 1 1 0 4 1 1 64 0 6 1 1 6e 0 3",
  "2 1 6e 0 5i 2 1 6e 0 0 1 1 64 0 0 7 1 6e 0 0 1 1 64 0 0 2 1 6e 0 0 1 1 6i 0 0 1 1 5y 0 0 1 1",
  "64 0 0 1 1 5m 0 0 11 1 6e 0 0 1 1 6g 0 0 2 1 6c 0 0 1 1 64 0 0 1 1 62 0 0 1 1 6e 0 0 1 1 6h",
  "0 0 1 1 64 0 0 1 1 6e 0 0 1 1 64 0 k0 2 1 6e 0 0 2 1 1 0 0 4 1 6e 0 0 3 1 1 0 0 2 1 6e 0 4 1",
  "1 6e 0 3 2 1 1 0 0 1 1 6e 0 0 1 1 64 0 0 1 1 6e 0 0 2 1 1 0 0 4 1 64 0 0 1 1 6e 0 2da 3 1 6e",
  "0 3x 1 1 9 0 2o w 1 6e 0 fe 1 1 62 0 0 1 1 6c 0 0 1 1 6g 0 0 1 1 66 0 0 2 1 68 0 2x 2 1 8 0",
  "n9w 1 1 6e 0 4 a 1 6e 0 w 2 1 6e 0 28 2 1 6e 0 7o 1 1 9 0 11 1 1 9 0 47 1 1 9 0 r i 1 6e 0",
  "1l 3 1 64 0 11 1 1 9 0 2n 1 1 7 0 c 1 1 9 0 6n 1 1 6e 0 1 2 1 6e 0 0 1 1 64 0 2 2 1 6e 0 5 2",
  "1 6e 0 1 1 1 6e 0 1g 1 1 9 0 6u 1 1 9 0 fn4 1 1 q 0 ld 7 1 6e 0 0 7 1 64 0 0 2 1 6e 0 r1 1 1",
  "64 0 6a 1 1 64 0 45 5 1 6e 0 1aq 1 1 64 0 1 1 1 6e 0 14 1 1 6e 0 0 1 1 1 0 0 1 1 64 0 4 1 1",
  "9 0 4l 1 1 6e 0 0 1 1 64 0 fx 4 1 6e 0 ar 2 1 6e 0 28 3 1 64 0 1y 2 1 64 0 0 3 1 6e 0 0 1 1",
  "64 0 0 1 1 6e 0 0 4 1 64 0 1d 1 1 6e 0 0 1 1 64 0 0 1 1 6e 0 0 1 1 64 0 5c 1 1 9 0 15 1 1 9",
  "0 e 1 1 9 0 1l 1 1 9 0 0 1 1 7 0 1x 3 1 6e 0 1c 2 1 9 0 1q 1 1 7 0 24 1 1 9 0 9 1 1 7 0 2y 1",
  "1 9 0 0 1 1 7 0 4y 1 1 7 0 0 1 1 9 0 28 2 1 7 0 g 1 1 9 0 o 7 1 6e 0 3 5 1 6e 0 5p 1 1 9 0 3",
  "1 1 7 0 n 1 1 6e 0 2r 1 1 9 0 0 1 1 7 0 6z 1 1 9 0 0 1 1 7 0 3i 1 1 9 0 3a 1 1 9 0 0 1 1 7 0",
  "37 1 1 9 0 7h 1 1 9 0 0 1 1 7 0 76 2 1 9 0 4 1 1 7 0 4c 1 1 9 0 2b 1 1 9 0 i 1 1 9 0 29 1 1",
  "9 0 bp 1 1 9 0 76 1 1 7 0 1 2 1 9 0 29 1 1 9 0 bt 2 1 9 0 ey5 5 1 1 0 1n 7 1 6e 0 xl 2 1 6 0",
  "f58 1 1 1 0 43q 2 1 60 0 0 3 1 1 0 3 1 1 6a 0 0 5 1 60 0 8 8 1 64 0 2 5 1 6e 0 0 2 1 64 0 u",
  "4 1 6e 0 44 3 1 6e 0 2pn 7 1 6e 0 1 h 1 6e 0 2 7 1 6e 0 1 2 1 6e 0 1 5 1 6e 0 2s 1 1 6e 0 4g",
  "7 1 6e 0 af 1 1 6e 0 1p 4 1 6e 0 e4 2 1 6g 0 0 1 1 64 0 0 1 1 6e 0 rk 7 1 64 0 31 6 1 6e 0 0",
  "1 1 7 0"]

def decompositions : Points (List Nat) := .ofLines [
  "68 2 2p lc 0 2 2p ld 0 2 2p le 0 2 2p lf 0 2 2p lk 0 2 2p lm 1 2 2r mf 0 2 2t lc 0 2 2t ld 0",
  "2 2t le 0 2 2t lk 0 2 2x lc 0 2 2x ld 0 2 2x le 0 2 2x lk 1 2 32 lf 0 2 33 lc 0 2 33 ld 0 2",
  "33 le 0 2 33 lf 0 2 33 lk 2 2 39 lc 0 2 39 ld 0 2 39 le 0 2 39 lk 0 2 3d ld 1 2 3d lk 1 2 2p",
  "lg 1 2 2p li 1 2 2p mg 1 2 2r ld 1 2 2r le 1 2 2r lj 1 2 2r lo 1 2 2s lo 3 2 2t lg 1 2 2t li",
  "1 2 2t lj 1 2 2t mg 1 2 2t lo 1 2 2v le 1 2 2v li 1 2 2v lj 1 2 2v mf 1 2 2w le 3 2 2x lf 1",
  "2 2x lg 1 2 2x li 1 2 2x mg 5 2 2y le 1 2 2z mf 2 2 30 ld 1 2 30 mf 1 2 30 lo 5 2 32 ld 1 2",
  "32 mf 1 2 32 lo 4 2 33 lg 1 2 33 li 1 2 33 ln 3 2 36 ld 1 2 36 mf 1 2 36 lo 1 2 37 ld 1 2 37",
  "le 1 2 37 mf 1 2 37 lo 1 2 38 mf 1 2 38 lo 3 2 39 lf 1 2 39 lg 1 2 39 li 1 2 39 lm 1 2 39 ln",
  "1 2 39 mg 1 2 3b le 1 2 3d le 2 2 3e ld 1 2 3e lj 1 2 3e lo y 2 33 m3 e 2 39 m3 t 2 2p lo 1",
  "2 2x lo 1 2 33 lo 1 2 39 lo 1 2 70 lg 1 2 70 ld 1 2 70 lo 1 2 70 lc 2 2 6c lg 1 2 fb lg 1 2",
  "6e lg 3 2 2v lo 1 2 2z lo 1 2 33 mg 1 2 dn lg 1 2 ia lo 0 2 2y lo 4 2 2v ld 3 2 32 lc 1 2 6d",
  "ld 1 2 6e ld 1 2 6w ld 1 2 2p lr 1 2 2p lt 1 2 2t lr 1 2 2t lt 1 2 2x lr 1 2 2x lt 1 2 33 lr",
  "1 2 33 lt 1 2 36 lr 1 2 36 lt 1 2 39 lr 1 2 39 lt 1 2 37 me 1 2 38 me 3 2 2w lo 7 2 2p lj 1",
  "2 2t mf 1 2 6u lg 1 2 6t lg 1 2 33 lj 1 2 fj lg 1 2 3d lg 9o 2 qy ld r 2 q9 ld 0 2 qd ld 0 2",
  "qf ld 0 2 qh ld 0 2 qz ld p 2 qh lk 0 2 qt lk 0 2 qn ld 0 2 qt ld 0 2 qx ld 2y 2 u0 li m 2",
  "tx lc 0 2 tx lk 1 2 tv ld 3 2 uu lk 4 2 u2 ld 0 2 u0 lc 0 2 ub li o 2 vp lr 22 2 ty li e 2",
  "ts li 1 2 ts lk 3 2 tx li 3 2 yh lk 1 2 ty lk 1 2 tz lk 3 2 u0 lg 1 2 u0 lk 1 2 u6 lk 3 2 yx",
  "lk 1 2 ul lk 1 2 ub lg 1 2 ub lk 1 2 ub ln 1 2 uf lk 3 2 uj lk 88 2 17r 18z 0 2 17r 190 0 2",
  "18o 190 0 2 17r 191 0 2 18q 190 49 2 1cl 190 1 2 1c1 190 g 2 1ci 190 gl 2 1t4 1to 7 2 1tc",
  "1to 2 2 1tf 1to 46 2 1xj 1xa 0 2 1xj 1xz aj 2 287 28m 2 2 287 27y 0 2 287 28n 1z 2 2aa 2c7",
  "1h 2 2bq 2bi 0 2 2br 2bi 0 2 2bq 2c7 3f 2 2fa 2fq 3b 2 2in 2j9 6 2 2iu 2j9 0 2 2iu 2ja 1 2",
  "2iu 2iq 0 2 2iy 2j9 3i 2 2me 2m6 0 2 2mf 2m6 0 2 2me 2mv 3x 2 2qh 2q2 1 2 2qh 2q7 0 2 2qk",
  "2q2 0 2 2qh 2qn g7 2 36t 372 25b 2 5c5 5dh 1 2 5c7 5dh 1 2 5c9 5dh 1 2 5cb 5dh 1 2 5cd 5dh 3",
  "2 5ch 5dh 14 2 5dm 5dh 1 2 5do 5dh 2 2 5dq 5dh 0 2 5dr 5dh 1 2 5du 5dh jh 2 2p md 1 2 2q lj",
  "1 2 2q mb 1 2 2q mp 1 2 6f ld 1 2 2s lj 1 2 2s mb 1 2 2s mp 1 2 2s mf 1 2 2s ml 1 2 7n lc 1",
  "2 7n ld 1 2 2t ml 1 2 2t mo 1 2 fd li 1 2 2u lj 1 2 2v lg 1 2 2w lj 1 2 2w mb 1 2 2w lk 1 2",
  "2w mf 1 2 2w mm 1 2 2x mo 1 2 6n ld 1 2 2z ld 1 2 2z mb 1 2 2z mp 1 2 30 mb 1 2 5yv lg 1 2",
  "30 mp 1 2 30 ml 1 2 31 ld 1 2 31 lj 1 2 31 mb 1 2 32 lj 1 2 32 mb 1 2 32 mp 1 2 32 ml 1 2 6t",
  "ld 1 2 6t lk 1 2 99 lc 1 2 99 ld 1 2 34 ld 1 2 34 lj 1 2 36 lj 1 2 36 mb 1 2 5zv lg 1 2 36",
  "mp 1 2 37 lj 1 2 37 mb 1 2 9n lj 1 2 9t lj 1 2 603 lj 1 2 38 lj 1 2 38 mb 1 2 38 mp 1 2 38",
  "ml 1 2 39 mc 1 2 39 mo 1 2 39 ml 1 2 a1 ld 1 2 a3 lk 1 2 3a lf 1 2 3a mb 1 2 3b lc 1 2 3b ld",
  "1 2 3b lk 1 2 3b lj 1 2 3b mb 1 2 3c lj 1 2 3c lk 1 2 3d lj 1 2 3e le 1 2 3e mb 1 2 3e mp 0",
  "2 2w mp 0 2 38 lk 0 2 3b lm 0 2 3d lm 7 2 2p mb 1 2 2p ll 1 2 6a ld 1 2 6a lc 1 2 6a ll 1 2",
  "6a lf 1 2 61t le 1 2 77 ld 1 2 77 lc 1 2 77 ll 1 2 77 lf 1 2 61t li 1 2 2t mb 1 2 2t ll 1 2",
  "2t lf 1 2 6i ld 1 2 6i lc 1 2 6i ll 1 2 6i lf 1 2 62h le 1 2 2x ll 1 2 2x mb 1 2 33 mb 1 2",
  "33 ll 1 2 6s ld 1 2 6s lc 1 2 6s ll 1 2 6s lf 1 2 631 le 1 2 bl ld 1 2 bl lc 1 2 bl ll 1 2",
  "bl lf 1 2 bl mb 1 2 39 mb 1 2 39 ll 1 2 c0 ld 1 2 c0 lc 1 2 c0 ll 1 2 c0 lf 1 2 c0 mb 1 2 3d",
  "lc 1 2 3d mb 1 2 3d ll 1 2 3d lf 6 2 q9 lv 0 2 q9 lw 0 2 64g lc 0 2 64h lc 0 2 64g ld 0 2",
  "64h ld 0 2 64g n6 0 2 64h n6 8 2 qd lv 0 2 qd lw 0 2 64w lc 0 2 64x lc 0 2 64w ld 0 2 64x ld",
  "a 2 qf lv 0 2 qf lw 0 2 65c lc 0 2 65d lc 0 2 65c ld 0 2 65d ld 0 2 65c n6 0 2 65d n6 8 2 qh",
  "lv 0 2 qh lw 0 2 65s lc 0 2 65t lc 0 2 65s ld 0 2 65t ld 0 2 65s n6 0 2 65t n6 8 2 qn lv 0 2",
  "qn lw 0 2 668 lc 0 2 669 lc 0 2 668 ld 0 2 669 ld a 2 qt lv 0 2 qt lw 0 2 66o lc 0 2 66p lc",
  "0 2 66o ld 0 2 66p ld 0 2 66o n6 0 2 66p n6 8 2 qx lv 0 2 qx lw 0 2 674 lc 0 2 675 lc 0 2",
  "674 ld 0 2 675 ld 0 2 674 n6 0 2 675 n6 8 2 q9 lc 1 2 qd lc 1 2 qf lc 1 2 qh lc 1 2 qn lc 1",
  "2 qt lc 1 2 qx lc 1f 2 q9 li 0 2 q9 lg 4 2 q9 n6 f 2 qf n6 9 2 qh li 0 2 qh lg 0 2 qy lc 3 2",
  "qh n6 0 2 qy n6 8 2 qt li 0 2 qt lg 0 2 qz lc 1 2 qp lv 0 2 qp lw 0 2 qt n6 0 2 qz n6 e 2 qx",
  "n6 bn 2 6mo mw 0 2 6mq mw i 2 6ms mw u 2 6og mw 0 2 6ok mw 0 2 6oi mw 1g 2 6pv mw 4 2 6q0 mw",
  "2 2 6q3 mw n 2 6qr mw 1 2 6qt mw q 2 6rg mw 2 2 6rn mw 2 2 6rp mw 1 2 6rs mw m 2 1p mw 1 2",
  "6sh mw a 2 6rx mw 0 2 1o mw 0 2 1q mw 0 2 6sk mw 0 2 6sl mw 2 2 6sy mw 0 2 6sz mw 2 2 6t2 mw",
  "0 2 6t3 mw 6 2 6t6 mw 0 2 6t7 mw 2 2 6te mw 0 2 6tf mw 2 2 6ti mw 0 2 6tj mw y 2 6ua mw 0 2",
  "6ug mw 0 2 6uh mw 0 2 6uj mw 1c 2 6t8 mw 0 2 6t9 mw 0 2 6tt mw 0 2 6tu mw 6 2 6uq mw 0 2 6ur",
  "mw 0 2 6us mw 0 2 6ut mw 2n2 2 9jf 9ll 1 2 9jh 9ll 1 2 9jj 9ll 1 2 9jl 9ll 1 2 9jn 9ll 1 2",
  "9jp 9ll 1 2 9jr 9ll 1 2 9jt 9ll 1 2 9jv 9ll 1 2 9jx 9ll 1 2 9jz 9ll 1 2 9k1 9ll 2 2 9k4 9ll",
  "1 2 9k6 9ll 1 2 9k8 9ll 6 2 9kf 9ll 0 2 9kf 9lm 1 2 9ki 9ll 0 2 9ki 9lm 1 2 9kl 9ll 0 2 9kl",
  "9lm 1 2 9ko 9ll 0 2 9ko 9lm 1 2 9kr 9ll 0 2 9kr 9lm m 2 9ja 9ll 9 2 9lp 9ll d 2 9m3 9ll 1 2",
  "9m5 9ll 1 2 9m7 9ll 1 2 9m9 9ll 1 2 9mb 9ll 1 2 9md 9ll 1 2 9mf 9ll 1 2 9mh 9ll 1 2 9mj 9ll",
  "1 2 9ml 9ll 1 2 9mn 9ll 1 2 9mp 9ll 2 2 9ms 9ll 1 2 9mu 9ll 1 2 9mw 9ll 6 2 9n3 9ll 0 2 9n3",
  "9lm 1 2 9n6 9ll 0 2 9n6 9lm 1 2 9n9 9ll 0 2 9n9 9lm 1 2 9nc 9ll 0 2 9nc 9lm 1 2 9nf 9ll 0 2",
  "9nf 9lm m 2 9ly 9ll 2 2 9nz 9ll 0 2 9o0 9ll 0 2 9o1 9ll 0 2 9o2 9ll 3 2 9od 9ll 1863 2 1huh",
  "1hve 1 2 1huj 1hve e 2 1hut 1hve 3m 2 1hyp 1hyf 0 2 1hyq 1hyf ez 2 1idj 1ida 0 2 1idj 1idz",
  "a6 2 1int 1inu 0 2 1int 1ink 1 2 1int 1inx 6z 2 1iuw 1iun 0 2 1iux 1iun os 2 1jjp 1jjk"]

def combiningClass (n : Nat) : Nat := (combiningClasses.get? n).getD 0

def splitSyllable (n : Nat) : List Nat :=
  let i := n - 0xAC00
  let last := i % 28
  [0x1100 + i / 588, 0x1161 + i % 588 / 28] ++ (if last = 0 then [] else [0x11A7 + last])

def isSyllable (n : Nat) : Bool := 0xAC00 ≤ n && n ≤ 0xD7A3

def decompose : (steps : Nat) → Nat → List Nat
  | 0, n => [n]
  | steps + 1, n =>
    if isSyllable n then splitSyllable n
    else match decompositions.get? n with
      | some parts => parts.flatMap (decompose steps)
      | none => [n]

def insertMark (n : Nat) : List Nat → List Nat
  | [] => [n]
  | m :: r =>
    if combiningClass n != 0 && combiningClass n < combiningClass m then m :: insertMark n r
    else n :: m :: r

def decomposed (cs : List Nat) : List Nat :=
  ((cs.flatMap (decompose 4)).foldl (fun acc n ↦ insertMark n acc) []).reverse

def compositions : List (Nat × Nat × Nat) :=
  decompositions.entries.toList.filterMap fun (n, parts) ↦
    match parts with
    | [a, b] => some (a, b, n)
    | _ => none

def composeKorean? (a b : Nat) : Option Nat :=
  if 0x1100 ≤ a && a < 0x1113 && 0x1161 ≤ b && b < 0x1176 then
    some (0xAC00 + (a - 0x1100) * 588 + (b - 0x1161) * 28)
  else if isSyllable a && (a - 0xAC00) % 28 = 0 && 0x11A7 < b && b < 0x11C3 then
    some (a + (b - 0x11A7))
  else none

def compose? (a b : Nat) : Option Nat :=
  (composeKorean? a b).or
    ((compositions.find? fun (x, y, _) ↦ x = a && y = b).map fun (_, _, n) ↦ n)

/-- Composes what follows a starter. `held` are the characters between, in reverse, and `last` the
class of the latest of them; a character of that class or below it is blocked. -/
def composeFrom (starter : Nat) (held : List Nat) (last : Nat) : List Nat → List Nat
  | [] => starter :: held.reverse
  | n :: r =>
    let cls := combiningClass n
    let blocked := !held.isEmpty && (last ≥ cls || last = 0)
    match if blocked then none else compose? starter n with
    | some m => composeFrom m held last r
    | none =>
      if cls = 0 then starter :: held.reverse ++ composeFrom n [] 0 r
      else composeFrom starter (n :: held) cls r

def composeAll : List Nat → List Nat
  | [] => []
  | n :: r => if combiningClass n = 0 then composeFrom n [] 0 r else n :: composeAll r

def composed (cs : List Char) : List Char :=
  if cs.all (·.toNat < 0x300) then cs
  else (composeAll (decomposed (cs.map Char.toNat))).map Char.ofNat

end Rulebook.Url
