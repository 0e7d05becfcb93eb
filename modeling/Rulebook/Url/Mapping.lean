import Rulebook.Text.Ranges

namespace Rulebook.Url

open Text

def disallowedRanges : Ranges := .ofLines [
  "3k v k8 1 6 3 7 0 1 0 k 0 b1 0 12 1 1e 1 3 0 1j 7 r 3 6 g m 0 5c 0 1c 1 1n 1 2t d 1n 1 1d 1",
  "f 0 s 1 1 0 b 4 w 6 23 0 4h 0 8 1 2 1 m 0 7 0 1 2 4 1 9 1 2 1 4 7 1 3 2 0 5 1 p 1 3 0 6 3 2",
  "1 m 0 7 0 2 0 2 0 2 1 1 0 5 3 2 1 3 2 1 6 4 0 1 6 h 9 3 0 9 0 3 0 m 0 7 0 2 0 5 1 a 0 3 0 3",
  "1 1 e 4 1 c 6 7 0 3 0 8 1 2 1 m 0 7 0 2 0 5 1 9 1 2 1 3 6 3 3 2 0 5 1 i 9 2 0 6 2 3 0 4 2 2",
  "0 1 0 2 2 2 2 3 2 c 3 5 2 3 0 4 1 1 5 1 d l 4 d 0 3 0 n 0 g 1 9 0 3 0 4 6 2 0 3 0 2 1 4 1 a",
  "6 m 0 3 0 n 0 a 0 5 1 9 0 3 0 4 6 2 4 3 0 4 1 a 0 3 b d 0 3 0 1f 0 3 0 6 3 g 1 q 0 3 0 i 2 o",
  "0 9 0 1 1 7 2 1 3 6 0 1 0 8 5 a 1 3 b 1m 3 t 10 2 0 1 0 5 0 o 0 1 0 n 1 5 0 1 0 7 0 a 1 4 v",
  "20 0 10 3 13 0 10 0 f 0 d 10 5i 0 1 4 1 1 ah 0 4 1 7 0 1 0 4 1 15 0 4 1 x 0 4 1 7 0 1 0 4 1",
  "f 0 1l 0 4 1 1v 1 w 2 q 5 2e 1 6 1 hs 0 s 2 2h 6 m 8 o 8 k b d 0 3 0 2 b 2m 1 a 5 a 5 q 5 2h",
  "6 17 4 1y 9 v 0 c 3 c 3 1 2 16 1 5 a 18 3 q 5 b 2 1q 1 1t 0 t 1 b 5 a 5 e 1 1a 1 c j 25 0 4m",
  "7 1o 2 f 2 1q 4 17 1 b 7 17 4 eu 1 6 1 12 1 6 1 8 0 1 0 1 0 1 0 v 1 1h 0 f 0 e 1 6 0 j 1 3 0",
  "9 0 e 1 k 2 1 6 1i 4 8 1 r 0 d 2 y d x e 3w 3 ii l b k 14 j 1co 1 am 4 19 0 1 4 1 1 1k 6 2 d",
  "o 8 7 0 7 0 7 0 7 0 7 0 7 0 7 0 7 0 3i x q 0 2h b 5y 15 1s 0 2e 1 2v 4 17 0 2m 0 2e 9 1b 0",
  "bm 0 4 0 g 0 m9g 2 1j 8 9o j 54 7 65 j 1o 2 a 5 1k 7 1y 7 c 5 38 a u 2 26 0 b 3 x 0 1j 8 e 1",
  "a 1 2v n s 9 6 1 6 1 6 8 7 0 7 0 1o 3 3i 1 a 5 8mc b n 3 1d 6ir a6 1 2y 11 7 b 5 4 q 0 5 0 1",
  "0 2 0 2 0 i2 v y 0 6 6 g 0 x 1 j 0 4 3 5 0 3r 1 1 0 5a 2 6 1 6 1 6 1 3 2 7 0 7 g c 0 q 0 j 0",
  "2 0 f 1 e x 3f 4 3 3 19 2 2g 0 d 2 1 1a 1a 3l t 2 1d e s 3 10 8 u 4 17 4 u 0 11 3 e 15 4e 1",
  "a 5 10 3 10 3 14 7 1g a c 0 f 0 7 0 2 0 b 0 f 0 7 0 2 2 1g b 8n 8 m 9 8 n 6 0 16 0 9 1w 6 1",
  "1 0 18 0 2 2 1 1 n 0 20 7 9 1b j 0 2 4 x 2 r 4 r 11 1k 3 k 1 1e 0 2 4 8 0 3 0 t 1 3 3 a 6 9",
  "6 1s v 13 3 c 8 1i 2 t 1 r 4 q 6 4 b 7 27 21 1i 1f c 1f 6 1a 7 a 5 12 2 t 7 2 5r v 0 16 0 3",
  "1 2 f 6 7 9 w 1a 7 16 l q 11 s j n 8 26 3 10 8 1q 0 5 c p 6 a 5 1h 0 i 7 13 8 2o 0 k a i 0",
  "1b 1p 7 0 1 0 4 0 f 0 b 5 1n 4 a 5 4 0 8 1 2 1 m 0 7 0 2 0 5 0 a 1 2 1 3 1 1 5 1 4 7 1 7 2 5",
  "a a 0 1 1 1 0 12 0 a 0 1 1 1 0 4 0 a 0 2 7 2 s 2k 0 5 t 20 7 a 4l 1i 1 12 x 1x a a 5 d i 1m",
  "5 a 5 k r r 1 f 3 n 54 1o 2r 2b b 8 1 1 1 8 0 2 0 u 0 2 1 c 8 a 1x 8 1 1a 1 b q 20 7 2b c 21",
  "6 a 2d 8 2f y d a 5 9 0 19 0 e 9 t 2 w 1 m 0 e 20 7 0 2 0 18 2 1 0 2 0 9 7 a 5 6 0 2 0 11 0",
  "2 0 6 6 a 5 18 3 a 6t p 6 h 0 15 2 t 2c 1 e 1e c pn 2t 33 0 5 a 5g 217 2r c ts f m 9 32z 4",
  "g7 5a0 1m 1c5 ft 6 v 0 a 3 29 0 a 5 u 1 6 9 1y 9 a 0 7 0 l 4 j bz 1m 5h 2j 4 p 1 p 17 23 3",
  "1l 6 h 1r 5 a 7 8 5p2 14 w 2o 37 6po 4 0 7 0 2 0 83 e 1 s 3 1 1 d 4 7 b0 1s3 2z 4 d 2 9 6 a",
  "1 8 317 71 2 c4 5 n e h e 1a 1 n 8 38 1n 6u 9 13 1 5e k 1y 3d k b k b 2f 8 p 3q 2d 0 1z 0 2",
  "1 1 1 2 1 4 0 c 0 1 0 7 0 1t 0 4 1 8 0 7 0 s 0 4 0 5 0 1 2 7 0 9g 1 84 1 ji e 5 0 f un v 5 6",
  "5w 7 0 h 1 7 0 2 0 5 4 1q w 1 33 19 2 e 1 a 3 2 8v v g 1m 4 1 cv 16 5x 17 3 1 5b v 0 m 7 2",
  "67 7 0 4 0 2 0 f 0 5h 1 g 14 24 3 a 3 2 ls 1w 23 1p 5d 4 0 r 0 2 0 1 1 1 0 a 0 4 0 1 0 1 5 1",
  "3 1 0 1 0 1 0 3 0 2 0 1 1 1 0 1 0 1 0 1 0 1 0 2 0 1 1 4 0 7 0 4 0 4 0 1 0 a 0 h 4 3 0 5 0 h",
  "1f 2 7h 18 3 2s b f 1 f 0 f 0 11 a 4t 1j t c 18 3 9 6 2 d 6 49 rd 2 h 2 d 2 62 5 c 3 1 e c 3",
  "1k 7 a 5 14 7 u 1 c 3 2 d 9 12 9k 7 e 1 d 2 b 2 1l 0 1 3 g 1 c 3 a 6 43 0 2v sk wyo v 3dq 1",
  "4ge 1 5rl e ha 1wh f2 15t 3t7 4 6ju f62t 6o 47bj"]

def ignoredRanges : Ranges := .ofLines [
  "4t 0 ip 0 2rz 1 18z 1 2d 4 1kr 0 2c 4 5 5 3ck 0 14ez f 6n 0 4g 0 11bz 3 43z 7 h479 6n"]

def mappedRuns : Points Nat := .ofRuns [
  "5c n 1 68 1 1 7 1 6w 1 x o 2 75 2 a 3 2 8q 2 3 4 2 8y 2 2 n 2 97 2 2 3 2 ai 2 y 3 2 bl 2 14",
  "8 2 cu 2 2 9 2 db 2 9 k 2 e1 2 3 9 2 f7 2 j 5 2 g7 2 8p 3 1 q5 1 6 h 1 q9 1 1 9 1 qr 1 18 c",
  "2 rd 2 e 3 1 or 1 0 g 1 uo 1 0 w 1 ts 1 1c h 2 v5 2 9 r 2 wb 2 2 7 2 xu 2 2 1c 2 y9 2 2 12 1",
  "129 1 289 12 1 8w0 1 mq 6 1 3xs 1 1oy 17 1 3bk 1 2 3 1 3ct 1 37 8 1 2v 1 3 3 1 34 2 s 3 1 qa",
  "1 1w 3 1 h4 1 8 3 1 hf 1 a 3 1 i8 1 1t 23 2 5xd 2 b 1c 2 61t 2 9 8 1 64g 1 8 6 1 64w 1 a 8 1",
  "65c 1 8 8 1 65s 1 8 6 1 668 1 b 4 2 66p 2 8 8 1 674 1 1 4 2 q4 1 1 3 2 r0 1 3m b 1 w 0 2x 6",
  "1 1g 1 6 a 1 1c 1 c 4 1 2z 1 36 3 1 2w 0 a 3 1 34 1 p 4 1 15c 1 mf 9 1 1d 1 25 q 1 2p 1 0 q",
  "1 2p 1 1ee 1c 1 8q8 1 1j 3 2 8rs 2 k 1e 2 8sh 2 us 3 1 3cz 1 0 6 1 3hs 1 1 3 1 3d2 1 1 a 1",
  "3d5 1 0 l 1 3fl 1 i 3 1 3dz 2 0 4 1 3e4 1 7 3 1 3fb 1 6b 4 1 3db 1 2q 5 1 9lu 2 0 c 1 9m3 2",
  "0 4 1 9ms 2 0 5 1 9mz 1 4 5 1 9ni 1 0 3 1 9no 2 0 5 1 9nt 1 0 4 1 9nz 1 mrl n 2 wu9 2 j e 2",
  "ww1 2 3r 7 2 x0j 2 3 v 2 x0z 2 f 5 2 x33 2 f a 2 x3r 2 b 8 2 x4l 2 9 8 2 x59 2 ph 28 1 3vk 1",
  "fok 3 1 15n 1 17 4 1 1a3 0 0 4 1 1a6 0 0 4 1 1a8 0 0 4 1 1a2 0 0 4 1 1a7 0 0 4 1 1a1 0 0 4 1",
  "1b8 0 0 4 1 1ba 0 0 4 1 1ac 0 0 4 1 1ab 0 0 4 1 1ae 0 0 4 1 1af 0 c 4 1 1bd 0 0 4 1 1bj 0 0",
  "4 1 1bn 0 0 4 1 1bl 0 2 4 1 1bv 0 2 4 1 1c1 0 0 4 1 1by 0 11 4 1 1bh 0 d 4 1 1cg 0 k 4 1 1cc",
  "0 g1 4 1 9ho 1 8 3 1 2n 0 1m 3 1 17q 0 2 4 1 17s 0 2 4 1 17u 0 0 4 1 17v 0 0 4 1 17w 0 0 4 1",
  "17x 0 0 4 1 17y 0 8 4 1 183 0 0 4 1 184 0 0 4 1 185 0 0 4 1 186 0 0 4 1 187 0 0 4 1 188 0 0",
  "4 1 189 0 0 4 1 18a 0 0 4 1 18h 0 0 4 1 18i 0 0 4 1 18j 0 0 4 1 18k 0 0 4 1 18l 0 0 4 1 18m",
  "0 0 4 1 18n 0 4 4 1 18q 0 c w 1 x 1 0 q 1 2p 1 0 10 1 2j 1 8 5 1 9lt 2 0 3 1 9nn 2 2 5 1 9lu",
  "2 0 c 1 9m3 2 0 4 1 9ms 2 0 5 1 9mz 1 4 5 1 9ni 1 0 3 1 9no 2 0 5 1 9nt 1 b 3 1 3cz 1 0 6 1",
  "3hs 1 1 3 1 3d2 1 1 a 1 3d5 1 3 6 1 3fl 1 2 6 1 3fr 1 2 6 1 3fx 1 2 3 1 3g3 1 c 4 1 6mo 1 sz",
  "14 1 1fe0 1 3s 10 1 1fiw 1 4c b 1 1fo7 1 1 f 1 1foj 1 1 7 1 1foz 1 f7 3 1 cg 1 xz 1f 1 1h34",
  "1 4d m 1 1h80 1 27u w 1 1jgg 1 gw0 w 1 20dc 1 1s p 1 20fv 1 il9 q 1 2p 1 0 a 1 1c 1 1dy q 1",
  "2p 1 0 q 1 2p 1 0 q 1 2p 1 0 7 1 2p 1 1 i 1 2x 1 0 q 1 2p 1 0 q 1 2p 1 d 4 1 32 1 1 8 1 37 1",
  "0 4 1 2p 1 4 6 1 2x 1 1 b 1 34 1 0 q 1 2p 1 0 q 1 2p 1 3 4 1 2s 1 2 8 1 2y 1 1 7 1 37 1 1 q",
  "1 2p 1 3 4 1 2s 1 1 5 1 2x 1 5 7 1 37 1 1 q 1 2p 1 0 q 1 2p 1 0 q 1 2p 1 0 q 1 2p 1 0 q 1 2p",
  "1 0 q 1 2p 1 0 q 1 2p 1 0 q 1 2p 1 0 q 1 2p 1 0 q 1 2p 1 0 q 1 2p 1 0 q 1 2p 1 0 q 1 2p 1 4",
  "h 1 q9 1 1 7 1 qr 1 1 h 1 q9 1 2 6 1 qs 1 7 h 1 q9 1 1 7 1 qr 1 1 h 1 q9 1 2 6 1 qs 1 7 h 1",
  "q9 1 1 7 1 qr 1 1 h 1 q9 1 2 6 1 qs 1 7 h 1 q9 1 1 7 1 qr 1 1 h 1 q9 1 2 6 1 qs 1 7 h 1 q9 1",
  "1 7 1 qr 1 1 h 1 q9 1 2 6 1 qs 1 b a 1 1c 1 0 a 1 1c 1 0 a 1 1c 1 0 a 1 1c 1 0 a 1 1c 1 1m8",
  "9 1 ts 1 0 3 1 u2 1 0 b 1 u6 1 a 9 1 ts 1 6 5 1 uc 1 1p7 y 1 2oma 1 yw 4 1 18j 1 b 3 1 186 2",
  "e 4 1 18j 1 23 3 1 186 2 f 3 1 18k 1 b 3 1 186 2 f 3 1 18k 1 b 3 1 186 2 hg q 1 2p 1 23q a 1",
  "1c 1"]

def mappedPoints : Points (List Nat) := .ofLines [
  "4g 1 w 7 2 w lk 1 1 2p 4 2 w lg 2 1 1e 0 1 1f 0 2 w ld 0 1 qk 2 2 w mf 0 1 1d 0 1 33 1 3 1d",
  "6dg 1g 0 3 1d 6dg 1e 0 3 1f 6dg 1g 35 2 2x lj 1 2 2x 2y 0 2 2x 2y 0 1 8l 1 1 8n 8 2 30 53 0",
  "2 30 53 8 2 jg 32 1a 1 73 6 1 37 1 1 gj 0 1 ar 1 1 at 1 1 gk 0 1 aw 1 1 gm 0 1 gn 0 1 b0 2 1",
  "d9 0 1 gp 0 1 gr 0 1 b6 1 1 gw 0 1 gz 1 1 h5 0 1 h4 0 1 bd 3 1 hb 0 1 he 1 1 hh 6 1 hs 0 1",
  "bs 1 1 hv 2 1 bx 1 1 i0 0 1 c0 1 1 i2 0 1 i3 0 1 c4 1 1 c6 1 1 ia 0 1 c9 3 1 cd 7 2 2s am 0",
  "2 2s am 0 2 2s am 0 2 30 2y 0 2 30 2y 0 2 30 2y 0 2 32 2y 0 2 32 2y 0 2 32 2y 10 2 2s 3e 0 2",
  "2s 3e 0 2 2s 3e 0 1 dx 1 1 b9 0 1 cf 14 1 bi p 1 8rp 0 1 fw 1 1 be 0 1 8rq 2 1 g2 1 1 ao 0 1",
  "i1 0 1 i4 2y 1 2w 0 1 h2 0 1 2y 0 1 36 0 1 hl 0 1 hn 0 1 ht 0 1 3b 0 1 3d v 2 w li 0 2 w lj",
  "0 2 w lm 0 2 w mg 0 2 w lf 0 2 w ln 2 1 gz 0 1 30 0 1 37 0 1 3c 0 1 id 2j 1 lc 0 1 ld 1 1 lv",
  "0 2 lk ld 0 1 qh 16 1 oh 1 1 oj 1 1 jd 1 1 on 3 2 w qh 3 1 1n 0 1 s3 4 2 w ld 0 3 w lk ld 0",
  "1 q4 0 1 53 4 1 r0 1 1 r1 0 1 r2 1r 1 rb 0 1 qa 0 1 qg 0 1 qt 0 1 r1 0 1 qz 0 1 qu 0 1 qo p",
  "1 qi 0 1 qp 0 1 qr 1 1 qg 0 1 qd 1 1 s8 1 1 qr 0 1 sb 5h 1 y7 5i 2 12d 136 6l 2 17r 19w 0 2",
  "18o 19w 0 2 1c7 19w 0 2 18q 19w kf 2 1sl 1to 0 2 1sm 1to 0 2 1sn 1to 0 2 1ss 1to 0 2 1sx 1to",
  "0 2 1sy 1to 0 2 1t7 1to 0 2 1tb 1to 3g 2 1wh 1x8 0 2 1wi 1x8 1 2 1wv 1x8 2b 2 20i 20s 2 2",
  "20o 20s y 2 1zq 20s 0 2 1zr 20s 0 2 1zw 20s 2 2 20b 20s 71 2 275 27w 0 2 276 27w k5 2 2tp",
  "2sy 3j 2 2x9 2wi 14 2 2wb 2vt 0 2 2wb 2w1 1a 1 2yz 1i 2 30i 33r 9 2 30s 33r 4 2 30x 33r 4 2",
  "312 33r 4 2 317 33r c 2 30g 33p 9 2 31t 31u 1 2 31t 31w 0 2 33m 328 0 3 33m 31t 328 0 2 33n",
  "328 0 3 33n 31t 328 7 2 31t 328 h 2 32q 33r 9 2 330 33r 4 2 335 33r 4 2 33a 33r 4 2 33f 33r",
  "c 2 32o 33p 7h 1 8x3 5 1 8x9 1a 1 3bw 29v 1 tu 0 1 tw 0 1 u6 0 1 u9 0 1 ua 0 1 ua 0 1 ui 0 1",
  "v7 0 1 wuj 0 1 5my 4i 1 2p 0 1 6e 0 1 2q 1 1 2s 0 1 2t 0 1 d9 9 1 33 0 1 f7 3 1 39 0 1 3b 0",
  "1 2p 0 1 gg 0 1 gh 0 1 5qa 0 1 2q 0 1 2s 0 1 2t 0 1 gp 0 1 gr 0 1 gs 0 1 2v 1 1 2z 0 1 31 0",
  "1 97 0 1 33 0 1 gk 0 1 5qu 0 1 5qv 0 1 34 0 1 38 0 1 39 0 1 5r1 0 1 hb 0 1 3a 0 1 5r9 3 1 qu",
  "0 1 qv 0 1 2x 0 1 36 0 1 39 0 1 3a 0 1 qa 0 1 qb 0 1 qp 0 1 qu 0 1 qv d 1 u5 y 1 gi 0 1 2r 0",
  "1 gl 0 1 6o 0 1 gs 0 1 2u 0 1 gv 0 1 gx 0 1 h1 3 1 5tn 0 1 il 0 1 h9 0 1 5tx 0 1 in 0 1 hd 0",
  "1 hc 0 1 he 3 1 hk 0 1 hu 0 1 hv 0 1 bv 0 1 i1 0 1 i2 0 1 5r0 0 1 i3 0 1 i4 0 1 3e 3 1 qg 62",
  "2 2p ji 0 1 601 2 1 67 69 2 64g qh 0 2 64h qh 0 2 64i qh 0 2 64j qh 0 2 64k qh 0 2 64l qh 0",
  "2 64m qh 0 2 64n qh 0 2 64g qh 0 2 64h qh 0 2 64i qh 0 2 64j qh 0 2 64k qh 0 2 64l qh 0 2",
  "64m qh 0 2 64n qh 0 2 65c qh 0 2 65d qh 0 2 65e qh 0 2 65f qh 0 2 65g qh 0 2 65h qh 0 2 65i",
  "qh 0 2 65j qh 0 2 65c qh 0 2 65d qh 0 2 65e qh 0 2 65f qh 0 2 65g qh 0 2 65h qh 0 2 65i qh 0",
  "2 65j qh 0 2 674 qh 0 2 675 qh 0 2 676 qh 0 2 677 qh 0 2 678 qh 0 2 679 qh 0 2 67a qh 0 2",
  "67b qh 0 2 674 qh 0 2 675 qh 0 2 676 qh 0 2 677 qh 0 2 678 qh 0 2 679 qh 0 2 67a qh 0 2 67b",
  "qh 2 2 67k qh 0 2 q9 qh 0 2 q4 qh 2 2 69i qh 0 1 69c 0 1 69d 0 1 67k 0 1 q4 0 2 q9 qh 0 2 w",
  "lv 0 1 qh 0 2 w lv 0 2 w n6 0 3 w lk n6 0 2 67o qh 0 2 qf qh 0 2 q6 qh 2 2 69y qh 0 1 67m 0",
  "1 q5 0 1 67o 0 1 q6 0 2 qf qh 0 3 w lv lc 0 3 w lv ld 0 3 w lv n6 3 1 pc 4 1 6a8 0 1 6a9 0 1",
  "67q 0 1 q7 1 3 w lw lc 0 3 w lw ld 0 3 w lw n6 3 1 q8 4 1 6ao 0 1 6ap 0 1 67u 0 1 r1 0 1 6at",
  "0 3 w lk lc 0 3 w lk ld 0 1 2o 2 2 67w qh 0 2 qx qh 0 2 r2 qh 2 2 6ba qh 0 1 67s 0 1 r0 0 1",
  "67w 0 1 r2 0 2 qx qh 0 2 w ld 0 2 w lw i 1 6c0 5 2 w mr n 1 w 3 2 6cy 6cy 0 3 6cy 6cy 6cy 1",
  "2 6d1 6d1 0 3 6d1 6d1 6d1 4 2 x x 1 2 w lh 8 2 1r 1r 0 2 1r x 0 2 x 1r d 4 6cy 6cy 6cy 6cy 7",
  "1 w g 1 1c 0 1 2x 8 1 17 0 1 6qa 0 1 1p 0 1 14 0 1 15 0 1 32 a 1 17 0 1 6qa 0 1 1p 0 1 14 0",
  "1 15 1 1 2p 0 1 2t 0 1 33 0 1 3c 0 1 gp 0 1 2w 4 1 34 0 1 37 0 1 38 b 2 36 37 2f 3 2p 1b 2r",
  "0 3 2p 1b 37 0 1 2r 0 2 4w 2r 1 3 2r 1b 33 0 3 2r 1b 39 0 1 gr 1 2 4w 2u 0 1 2v 0 1 2w 3 1",
  "87 0 1 2x 0 1 2x 0 1 30 0 1 30 1 1 32 0 2 32 33 5 1 36 0 1 36 2 2 37 31 0 3 38 2t 30 0 2 38",
  "31 1 1 3e 1 1 qx 1 1 3e 1 1 2z 0 1 6d 0 1 2q 0 1 2r 1 1 2t 0 1 2t 0 1 2u 0 1 6ku 0 1 31 0 1",
  "33 4 1 2x 1 3 2u 2p 3c 0 1 qo 0 1 qb 0 1 qb 0 1 qo 0 1 6q9 4 1 2s 0 1 2s 0 1 2t 0 1 2x 0 1",
  "2y 6 3 1d 6dg 1j 0 3 1d 6dg 1l 0 4 1d 6dg 1d 1c 0 3 1d 6dg 1f 0 3 1e 6dg 1f 0 3 1d 6dg 1h 0",
  "3 1e 6dg 1h 0 3 1f 6dg 1h 0 3 1g 6dg 1h 0 3 1d 6dg 1i 0 3 1h 6dg 1i 0 3 1d 6dg 1k 0 3 1f 6dg",
  "1k 0 3 1h 6dg 1k 0 3 1j 6dg 1k 0 2 1d 6dg 0 1 2x 0 2 2x 2x 0 3 2x 2x 2x 0 2 2x 3a 0 1 3a 0 2",
  "3a 2x 0 3 3a 2x 2x 0 4 3a 2x 2x 2x 0 2 2x 3c 0 1 3c 0 2 3c 2x 0 3 3c 2x 2x 0 1 30 0 1 2r 0 1",
  "2s 0 1 31 0 1 2x 0 2 2x 2x 0 3 2x 2x 2x 0 2 2x 3a 0 1 3a 0 2 3a 2x 0 3 3a 2x 2x 0 4 3a 2x 2x",
  "2x 0 2 2x 3c 0 1 3c 0 2 3c 2x 0 3 3c 2x 2x 0 1 30 0 1 2r 0 1 2s 0 1 31 3 1 6mc 5 3 1c 6dg 1f",
  "4i 2 6qz 6qz 0 3 6qz 6qz 6qz 1 2 6r2 6r2 0 3 6r2 6r2 6r2 6w 1 9hk 0 1 9hl 8u 2 1d 1c 0 2 1d",
  "1d 0 2 1d 1e 0 2 1d 1f 0 2 1d 1g 0 2 1d 1h 0 2 1d 1i 0 2 1d 1j 0 2 1d 1k 0 2 1d 1l 0 2 1e 1c",
  "0 3 14 1d 15 0 3 14 1e 15 0 3 14 1f 15 0 3 14 1g 15 0 3 14 1h 15 0 3 14 1i 15 0 3 14 1j 15 0",
  "3 14 1k 15 0 3 14 1l 15 0 4 14 1d 1c 15 0 4 14 1d 1d 15 0 4 14 1d 1e 15 0 4 14 1d 1f 15 0 4",
  "14 1d 1g 15 0 4 14 1d 1h 15 0 4 14 1d 1i 15 0 4 14 1d 1j 15 0 4 14 1d 1k 15 0 4 14 1d 1l 15",
  "0 4 14 1e 1c 15 k 3 14 2p 15 0 3 14 2q 15 0 3 14 2r 15 0 3 14 2s 15 0 3 14 2t 15 0 3 14 2u",
  "15 0 3 14 2v 15 0 3 14 2w 15 0 3 14 2x 15 0 3 14 2y 15 0 3 14 2z 15 0 3 14 30 15 0 3 14 31",
  "15 0 3 14 32 15 0 3 14 33 15 0 3 14 34 15 0 3 14 35 15 0 3 14 36 15 0 3 14 37 15 0 3 14 38",
  "15 0 3 14 39 15 0 3 14 3a 15 0 3 14 3b 15 0 3 14 3c 15 0 3 14 3d 15 0 3 14 3e 15 1g 1 1c 10h",
  "4 6qz 6qz 6qz 6qz 2v 3 1m 1m 1p 0 2 1p 1p 0 3 1p 1p 1p 2t 2 8gt mw ar 1 8rl 1 1 h7 0 1 5tp 0",
  "1 hp 8 1 gh 0 1 hd 0 1 gg 0 1 gi 1 1 8s3 2 1 8s6 6 1 2y 0 1 3a 0 1 fz 0 1 g0 2z 1 8vg 1 1",
  "8vi 4 1 8vn 3g 1 8yp 8f 1 lal 2b 1 vj3 c 1 feo 0 1 ffs 0 1 fg6 0 1 fgf 0 1 fh5 0 1 fid 0 1",
  "fik 0 1 fj4 0 1 fju 0 1 g1r 0 1 g2t 0 1 g2z 0 1 g3m 0 1 g46 0 1 g4r 0 1 g68 0 1 g6t 0 1 g74",
  "0 1 gbf 0 1 ge1 0 1 get 0 1 gey 0 1 gfs 0 1 gg1 0 1 ggs 0 1 gh5 0 1 ghu 0 1 gja 0 1 gjs 0 1",
  "gkj 0 1 h5j 0 1 h7j 0 1 hkb 0 1 hky 0 1 hl6 0 1 hlh 0 1 hlz 0 1 ho3 0 1 i1c 0 1 i2o 0 1 i60",
  "0 1 i6n 0 1 i76 0 1 i7s 0 1 i9a 0 1 i9d 0 1 ijf 0 1 ijp 0 1 ik1 0 1 ike 0 1 inm 0 1 inu 0 1",
  "inz 0 1 ir8 0 1 iri 0 1 irv 0 1 is3 0 1 its 0 1 iu9 0 1 iur 0 1 iwz 0 1 jd4 0 1 jee 0 1 jez",
  "0 1 jzj 0 1 jzo 0 1 k1z 0 1 k2f 0 1 k2s 0 1 k3d 0 1 k4g 0 1 k4l 0 1 kc0 0 1 kco 0 1 kdk 0 1",
  "l5s 0 1 l7m 0 1 l89 0 1 l9v 0 1 laj 0 1 las 0 1 laz 0 1 lcf 0 1 lck 0 1 ldg 0 1 m7f 0 1 mju",
  "0 1 mk6 0 1 mkb 0 1 mkf 0 1 mkn 0 1 ml5 0 1 ml7 0 1 mng 0 1 mtg 0 1 mtl 0 1 n30 0 1 n3a 0 1",
  "n4o 0 1 n4v 0 1 n54 0 1 n5c 0 1 n7v 0 1 n82 0 1 nee 0 1 nel 0 1 nfy 0 1 ngf 0 1 nhq 0 1 nob",
  "0 1 noi 0 1 noz 0 1 ny2 0 1 o1k 0 1 o1q 0 1 o6s 0 1 o97 0 1 oah 0 1 okz 0 1 ooo 0 1 p4m 0 1",
  "p5d 0 1 p6y 0 1 p8d 0 1 pa9 0 1 pak 0 1 paq 0 1 pbn 0 1 pdr 0 1 pe1 0 1 pnn 0 1 pnu 0 1 po3",
  "0 1 poc 0 1 pos 0 1 pp7 0 1 ppb 0 1 pri 0 1 prm 0 1 prs 0 1 qj1 0 1 qjv 0 1 qww 0 1 qx8 0 1",
  "qxv 0 1 r5q 0 1 r63 0 1 r82 0 1 r9c 0 1 rp3 0 1 rpi 0 1 rpx 0 1 rqw 0 1 rrx 0 1 rxg 0 1 rxs",
  "0 1 rzn 0 1 s6j 0 1 s7e 0 1 sd7 0 1 sds 0 1 sdx 0 1 sk1 0 1 sp5 0 1 ssm 0 1 sss 0 1 ssx 0 1",
  "tiv 0 1 tj4 0 1 tng 0 1 trq 0 1 trt 0 1 tt4 0 1 tw1 0 1 twe 0 1 twi 0 1 twp 0 1 tzf 0 1 u0d",
  "0 1 u0j 0 1 u0x 0 1 u5k 0 1 u6z 0 1 u73 0 1 uc6 0 1 uc9 0 1 ucs 0 1 ujs 0 1 ul4 0 1 ulb 0 1",
  "un9 0 1 unj 0 1 unm 0 1 unw 0 1 uoq 0 1 uzp 0 1 vat 0 1 vb3 0 1 vc5 0 1 vcr 0 1 vcz 0 1 vd9",
  "0 1 vdd 0 1 veh 0 1 vel 0 1 vf2 0 1 vf7 0 1 vfk 0 1 vgb 0 1 vgq 0 1 vgy 0 1 vil 0 1 vj0 0 1",
  "vj4 16 1 w 1 1 1a 1f 1 9hu 1 1 gg1 0 1 gg4 0 1 gg5 2o 2 w 9ll 0 2 w 9lm 2 2 9l4 9l6 2n 2 9mb",
  "9mw 1d 1 3cw 0 1 3cx 0 1 3hm 0 1 3cy 0 1 3ho 0 1 3hp 9 1 3dm 3 1 3dt w 1 3dg 0 1 3dh 0 1 3if",
  "0 1 3ig 0 1 3ik 0 1 3im 0 1 3ir 0 1 3iv 0 1 3ix 0 1 3do 0 1 3j1 0 1 3j3 0 1 3dp 0 1 3dq 0 1",
  "3ds 0 1 3du 0 1 3dv 7 1 3ea 0 1 3ee 0 1 3eo 0 1 3ev 0 1 3f0 0 1 3jl 0 1 3jm 3 1 3gk 0 1 3gl",
  "0 1 3go 0 1 3gx 0 1 3gy 0 1 3h0 0 1 3ha 0 1 3hd 3 1 feo 0 1 fik 0 1 fex 0 1 h5n 0 1 fey 0 1",
  "ffx 0 1 fez 0 1 n5e 0 1 fh5 0 1 ffd 0 1 fep 0 1 hm1 0 1 h80 0 1 fju 2o 3 14 3cw 15 0 3 14",
  "3cy 15 0 3 14 3cz 15 0 3 14 3d1 15 0 3 14 3d2 15 0 3 14 3d3 15 0 3 14 3d5 15 0 3 14 3d7 15 0",
  "3 14 3d8 15 0 3 14 3da 15 0 3 14 3db 15 0 3 14 3dc 15 0 3 14 3dd 15 0 3 14 3de 15 0 3 14 xz4",
  "15 0 3 14 yvs 15 0 3 14 zc4 15 0 3 14 108s 15 0 3 14 10p4 15 0 3 14 115g 15 0 3 14 1224 15 0",
  "3 14 12ys 15 0 3 14 13f4 15 0 3 14 14bs 15 0 3 14 14s4 15 0 3 14 158g 15 0 3 14 15os 15 0 3",
  "14 1654 15 0 3 14 13p8 15 0 4 14 1350 13ic 15 0 4 14 1350 16f8 15 1 3 14 feo 15 0 3 14 fik",
  "15 0 3 14 fex 15 0 3 14 h5n 15 0 3 14 fis 15 0 3 14 g31 15 0 3 14 fer 15 0 3 14 g2z 15 0 3",
  "14 fh9 15 0 3 14 gg1 15 0 3 14 kco 15 0 3 14 m7f 15 0 3 14 ldg 15 0 3 14 kdk 15 0 3 14 ssx",
  "15 0 3 14 h7j 15 0 3 14 k4l 15 0 3 14 kkq 15 0 3 14 kcp 15 0 3 14 ny6 15 0 3 14 glp 15 0 3",
  "14 mm1 15 0 3 14 rs1 15 0 3 14 nz1 15 0 3 14 gc4 15 0 3 14 fkz 15 0 3 14 gos 15 0 3 14 i1y",
  "15 0 3 14 nhf 15 0 3 14 flt 15 0 3 14 rt3 15 0 3 14 ggk 15 0 3 14 nzh 15 0 3 14 fm9 15 0 3",
  "14 pnu 15 0 3 14 po3 15 0 1 gun 0 1 inw 0 1 k1z 0 1 oen 8 3 34 38 2t 0 2 1e 1d 0 2 1e 1e 0 2",
  "1e 1f 0 2 1e 1g 0 2 1e 1h 0 2 1e 1i 0 2 1e 1j 0 2 1e 1k 0 2 1e 1l 0 2 1f 1c 0 2 1f 1d 0 2 1f",
  "1e 0 2 1f 1f 0 2 1f 1g 0 2 1f 1h 0 1 3cw 0 1 3cy 0 1 3cz 0 1 3d1 0 1 3d2 0 1 3d3 0 1 3d5 0 1",
  "3d7 0 1 3d8 0 1 3da 4 1 xz4 0 1 yvs 0 1 zc4 0 1 108s 0 1 10p4 0 1 115g 0 1 1224 0 1 12ys 0 1",
  "13f4 0 1 14bs 0 1 14s4 0 1 158g 0 1 15os 0 1 1654 0 2 14c8 y5c 0 2 13p8 13dk 0 1 138w 1 1",
  "feo 0 1 fik 0 1 fex 0 1 h5n 0 1 fis 0 1 g31 0 1 fer 0 1 g2z 0 1 fh9 0 1 gg1 0 1 kco 0 1 m7f",
  "0 1 ldg 0 1 kdk 0 1 ssx 0 1 h7j 0 1 k4l 0 1 kkq 0 1 kcp 0 1 ny6 0 1 glp 0 1 mm1 0 1 rs1 0 1",
  "nz1 0 1 gc4 0 1 o2g 0 1 n5j 0 1 ho3 0 1 six 0 1 g16 0 1 ghc 0 1 lig 0 1 u11 0 1 fm9 0 1 g49",
  "0 1 l7n 0 1 fey 0 1 ffx 0 1 fez 0 1 ijq 0 1 gkz 0 1 gfv 0 1 i3b 0 1 i1y 0 1 nhf 0 1 flt 0 1",
  "rt3 0 1 ggk 0 1 hlo 0 2 1f 1i 0 2 1f 1j 0 2 1f 1k 0 2 1f 1l 0 2 1g 1c 0 2 1g 1d 0 2 1g 1e 0",
  "2 1g 1f 0 2 1g 1g 0 2 1g 1h 0 2 1g 1i 0 2 1g 1j 0 2 1g 1k 0 2 1g 1l 0 2 1h 1c 0 2 1d kco 0 2",
  "1e kco 0 2 1f kco 0 2 1g kco 0 2 1h kco 0 2 1i kco 0 2 1j kco 0 2 1k kco 0 2 1l kco 0 3 1d",
  "1c kco 0 3 1d 1d kco 0 3 1d 1e kco 0 2 2w 2v 0 3 2t 36 2v 0 2 2t 3a 0 3 30 38 2s q 1 9n6 0 1",
  "9n9 0 1 9nc 0 1 9nf h 2 fl0 gp8 0 4 9lu 9n5 9oc 9mw 0 4 9lu 9nv 9n9 9lt 0 4 9lu 9o3 9ne 9lu",
  "0 3 9lu 9oc 9nv 0 4 9lw 9mz 9o3 9m8 0 3 9lw 9o3 9mp 0 3 9ly 9m1 9o3 0 5 9m0 9mh 9m7 9oc 9mx",
  "0 4 9m0 9oc 9m3 9oc 0 3 9m2 9o3 9mh 0 3 9m2 9oc 9nk 0 3 9m3 9lw 9nu 0 4 9m3 9nt 9mr 9mw 0 4",
  "9m3 9nx 9nu 9oc 0 3 9m4 9nx 9o3 0 3 9m4 9o3 9ni 0 2 9m6 9m4 0 3 9m6 9mz 9oc 0 4 9m5 9np 9nu",
  "9oc 0 4 9m6 9nv 9mo 9oc 0 2 9m5 9nx 0 5 9m5 9nx 9m8 9nt 9nk 0 6 9m5 9nx 9nl 9oc 9mw 9nv 0 5",
  "9m5 9nx 9nz 9mr 9mw 0 3 9m8 9nt 9nk 0 5 9m8 9nt 9nk 9mw 9o3 0 5 9m7 9nv 9mk 9lw 9nx 0 4 9m7",
  "9nx 9oc 9n1 0 3 9m9 9oc 9mh 0 3 9mb 9nv 9my 0 3 9mb 9oc 9nh 0 4 9md 9lw 9m7 9nv 0 5 9md 9o3",
  "9mp 9oc 9nk 0 4 9mf 9nu 9o3 9m8 0 3 9mj 9o3 9mp 0 3 9mj 9o3 9mw 0 3 9mo 9oc 9mh 0 2 9mv 9mf",
  "0 2 9mx 9nv 0 2 9mw 9o3 0 2 9my 9n2 0 3 9n2 9mr 9mw 0 3 9n3 9lw 9ms 0 5 9n5 9oc 9mj 9o3 9mw",
  "0 3 9n5 9oc 9ms 0 4 9n4 9oc 9nw 9nv 0 5 9n8 9lu 9mh 9mw 9nv 0 3 9n8 9m7 9nv 0 2 9n8 9mb 0 2",
  "9n7 9nv 0 5 9n9 9lt 9nt 9mr 9mx 0 4 9n9 9lv 9oc 9mw 0 5 9na 9mr 9mf 9lz 9nv 0 3 9n9 9nt 9o3",
  "0 5 9nc 9m7 9mn 9oc 9nv 0 2 9ne 9ml 0 3 9ne 9mz 9n6 0 3 9nc 9nv 9ms 0 3 9ne 9o3 9mh 0 3 9ne",
  "9oc 9mg 0 3 9nd 9oc 9mn 0 4 9nh 9lw 9o3 9mw 0 3 9ng 9nv 9mw 0 2 9nf 9o3 0 3 9nh 9o3 9mx 0 3",
  "9nf 9oc 9nv 0 3 9nf 9oc 9o3 0 4 9ni 9lw 9m7 9nx 0 3 9ni 9lw 9nv 0 3 9ni 9mr 9n3 0 3 9ni 9nv",
  "9m7 0 5 9ni 9o3 9mf 9nr 9o3 0 4 9nj 9m7 9nx 9o3 0 2 9nj 9nu 0 5 9nj 9nu 9n4 9oc 9nv 0 2 9nl",
  "9m4 0 4 9nl 9m4 9mw 9o3 0 4 9nl 9oc 9mw 9nv 0 3 9no 9oc 9mx 0 3 9no 9oc 9nv 0 3 9nq 9lu 9o3",
  "0 4 9nu 9mr 9mw 9nv 0 2 9nu 9nt 0 3 9nv 9n8 9oc 0 4 9nv 9oc 9na 9nv 0 2 9nw 9nk 0 5 9nw 9o3",
  "9mw 9ma 9o3 0 3 9nz 9mr 9mw 0 2 1c m9l 0 2 1d m9l 0 2 1e m9l 0 2 1f m9l 0 2 1g m9l 0 2 1h",
  "m9l 0 2 1i m9l 0 2 1j m9l 0 2 1k m9l 0 2 1l m9l 0 3 1d 1c m9l 0 3 1d 1d m9l 0 3 1d 1e m9l 0",
  "3 1d 1f m9l 0 3 1d 1g m9l 0 3 1d 1h m9l 0 3 1d 1i m9l 0 3 1d 1j m9l 0 3 1d 1k m9l 0 3 1d 1l",
  "m9l 0 3 1e 1c m9l 0 3 1e 1d m9l 0 3 1e 1e m9l 0 3 1e 1f m9l 0 3 1e 1g m9l 0 3 2w 34 2p 0 2",
  "2s 2p 0 2 2p 39 0 3 2q 2p 36 0 2 33 3a 0 2 34 2r 0 2 2s 31 0 3 2s 31 1e 0 3 2s 31 1f 0 2 2x",
  "39 0 2 inn jdc 0 2 k6l gp8 0 2 hlz l7n 0 2 k5q lh7 0 4 kkq irz fmi ny6 0 2 34 2p 0 2 32 2p 0",
  "2 qk 2p 0 2 31 2p 0 2 2z 2p 0 2 2z 2q 0 2 31 2q 0 2 2v 2q 0 3 2r 2p 30 0 4 2z 2r 2p 30 0 2",
  "34 2u 0 2 32 2u 0 2 qk 2u 0 2 qk 2v 0 2 31 2v 0 2 2z 2v 0 2 2w 3e 0 3 2z 2w 3e 0 3 31 2w 3e",
  "0 3 2v 2w 3e 0 3 38 2w 3e 0 2 qk 30 0 2 31 30 0 2 2s 30 0 2 2z 30 0 2 2u 31 0 2 32 31 0 2 qk",
  "31 0 2 31 31 0 2 2r 31 0 2 2z 31 0 3 31 31 1e 0 3 2r 31 1e 0 2 31 1e 0 3 2z 31 1e 0 3 31 31",
  "1f 0 3 2r 31 1f 0 2 31 1f 0 3 2z 31 1f 0 3 31 6qd 37 0 4 31 6qd 37 1e 0 2 34 2p 0 3 2z 34 2p",
  "0 3 31 34 2p 0 3 2v 34 2p 0 3 36 2p 2s 0 5 36 2p 2s 6qd 37 0 6 36 2p 2s 6qd 37 1e 0 2 34 37",
  "0 2 32 37 0 2 qk 37 0 2 31 37 0 2 34 3a 0 2 32 3a 0 2 qk 3a 0 2 31 3a 0 2 2z 3a 0 2 31 3a 0",
  "2 34 3b 0 2 32 3b 0 2 qk 3b 0 2 31 3b 0 2 2z 3b 0 2 31 3b 0 2 2z qx 0 2 31 qx 1 2 2q 35 0 2",
  "2r 2r 0 2 2r 2s 0 4 2r 6qd 2z 2v 1 2 2s 2q 0 2 2v 3d 0 2 2w 2p 0 2 2w 34 0 2 2x 32 0 2 2z 2z",
  "0 2 2z 31 0 2 2z 38 0 2 30 31 0 2 30 32 0 3 30 33 2v 0 2 30 3c 0 2 31 2q 0 3 31 2x 30 0 3 31",
  "33 30 0 2 34 2w 1 3 34 34 31 0 2 34 36 0 2 37 36 0 2 37 3a 0 2 3b 2q 0 3 3a 6qd 31 0 3 2p",
  "6qd 31 0 2 1d k4l 0 2 1e k4l 0 2 1f k4l 0 2 1g k4l 0 2 1h k4l 0 2 1i k4l 0 2 1j k4l 0 2 1k",
  "k4l 0 2 1l k4l 0 3 1d 1c k4l 0 3 1d 1d k4l 0 3 1d 1e k4l 0 3 1d 1f k4l 0 3 1d 1g k4l 0 3 1d",
  "1h k4l 0 3 1d 1i k4l 0 3 1d 1j k4l 0 3 1d 1k k4l 0 3 1d 1l k4l 0 3 1e 1c k4l 0 3 1e 1d k4l 0",
  "3 1e 1e k4l 0 3 1e 1f k4l 0 3 1e 1g k4l 0 3 1e 1h k4l 0 3 1e 1i k4l 0 3 1e 1j k4l 0 3 1e 1k",
  "k4l 0 3 1e 1l k4l 0 3 1f 1c k4l 0 3 1f 1d k4l 0 3 2v 2p 30 mn0 1 ui 0 1 uk 5u 1 x2n 8 1 x2y",
  "1 1 x30 1 1 5tl d 1 x3g 1 1 h1 2 1 x3l 1 1 x3n n 1 h2 0 1 gs 0 1 gx 0 1 h8 0 1 h6 1 1 im 0 1",
  "hz 0 1 il 0 1 xub g 1 x3o 0 1 hu 0 1 5u6 0 1 x54 1 1 x56 1 1 h0 g 1 bf k 1 37 0 1 2r 0 1 2u",
  "0 1 35 0 1 x6e 2 1 87 0 1 9f o2 1 x0n 0 1 xtj 0 1 h7 0 1 xua 9 1 i5 fbq 1 rpk 0 1 kc4 0 1",
  "s7e 0 1 rt4 0 1 lw1 0 1 fg2 0 1 gkl 0 1 vj0 0 1 vj0 0 1 hn5 0 1 ssx 0 1 gw7 0 1 hmw 0 1 jcm",
  "0 1 ne1 0 1 p6t 0 1 qin 0 1 qt6 0 1 r20 0 1 sjz 0 1 kxu 0 1 ljv 0 1 mah 0 1 mvy 0 1 q4d 0 1",
  "sq2 0 1 uep 0 1 fia 0 1 ghh 0 1 l50 0 1 mjf 0 1 qi5 0 1 v8e 0 1 ifk 0 1 m3v 0 1 qfh 0 1 r50",
  "0 1 jih 0 1 pnc 0 1 qvz 0 1 iq2 0 1 kd3 0 1 lm2 0 1 mpo 0 1 slq 0 1 fpi 0 1 g53 0 1 gda 0 1",
  "jwk 0 1 l3n 0 1 mj4 0 1 nhj 0 1 pa9 0 1 qh2 0 1 qjg 0 1 s1b 0 1 tv6 0 1 upb 0 1 v7e 0 1 nt8",
  "0 1 nzz 0 1 otc 0 1 q15 0 1 t1g 0 1 vb3 0 1 rfa 0 1 hjz 0 1 iro 0 1 okg 0 1 pdq 0 1 mle 0 1",
  "nuy 0 1 rsy 0 1 ttj 0 1 hjs 0 1 i8y 0 1 kyb 0 1 lp6 0 1 lxr 0 1 oq7 0 1 oxj 0 1 tor 0 1 gcy",
  "0 1 pe3 0 1 g64 0 1 g5o 0 1 o4c 0 1 ou6 0 1 q29 0 1 tpx 0 1 rk0 0 1 jin 0 1 kxu 0 1 rge 0 1",
  "fg9 0 1 i5j 0 1 iz6 0 1 mtj 0 1 n74 0 1 gev 0 1 nwb 0 1 fr3 0 1 iw9 0 1 ff1 0 1 lho 0 1 k1k",
  "0 1 opu 0 1 gjn 0 1 hge 0 1 ni9 0 1 q4p 0 1 re2 0 1 la2 0 1 sds 0 1 lfs 0 1 jjy 0 1 put 0 1",
  "jog 0 1 n6t 0 1 fji 0 1 g2x 0 1 g5l 0 1 kn5 0 1 oo7 0 1 prj 0 1 rf6 0 1 ssv 0 1 gdx 0 1 gn6",
  "0 1 ho3 0 1 ir0 0 1 k3p 0 1 m4e 0 1 nxm 0 1 tkd 0 1 ui2 0 1 vbr 0 1 vda 0 1 gbf 0 1 kau 0 1",
  "l87 0 1 sbm 0 1 ino 0 1 j9s 0 1 jcw 0 1 jve 0 1 lyb 0 1 mdl 0 1 n0p 0 1 o22 0 1 ovo 0 1 pdb",
  "0 1 s9y 0 1 q9a 0 1 sgz 0 1 t3e 0 1 g7r 0 1 gbn 0 1 gql 0 1 ma0 0 1 r0i 0 1 re2 0 1 iq1 0 1",
  "iyd 0 1 jnf 0 1 l9q 0 1 oji 0 1 mt1 0 1 fl0 0 1 h6h 0 1 i5j 0 1 iii 0 1 izg 0 1 muq 0 1 mzt",
  "0 1 p7e 0 1 pc6 0 1 svo 0 1 tti 0 1 tvs 0 1 u1k 0 1 fpn 0 1 o1a 0 1 ss4 0 1 trs 0 1 j4x 0 1",
  "fie 0 1 fyy 0 1 i5q 0 1 i7z 0 1 k2h 0 1 kxu 0 1 mha 0 1 ncy 0 1 q9o 0 1 sjg 0 1 vil 0 1 k94",
  "0 1 tny 0 1 gax 0 1 kfv 0 1 kj7 0 1 lkx 0 1 luk 0 1 mx5 0 1 n6h 0 1 nsb 0 1 opc 0 1 u3i 0 1",
  "g31 0 1 je6 0 1 tq0 0 1 fu3 0 1 ie1 0 1 lpm 0 1 sa2 0 1 ivf 0 1 j7o 0 1 kk7 0 1 mtj 0 1 tqe",
  "0 1 g89 0 1 glr 0 1 i91 0 1 k5v 0 1 kem 0 1 ko8 0 1 lid 0 1 mx2 0 1 naa 0 1 p6h 0 1 r0v 0 1",
  "r1d 0 1 sss 0 1 tsy 0 1 gfz 0 1 lve 0 1 gm5 0 1 mhc 0 1 n14 0 1 qgq 0 1 tr7 0 1 uvr 0 1 vbz",
  "0 1 kgn 0 1 lor 0 1 pns 0 1 o97 0 1 obk 0 1 olu 0 1 mo0 0 1 m8p 0 1 riw 0 1 fk0 0 1 px2 0 1",
  "g8q 0 1 g7b 0 1 ip2 0 1 jir 0 1 onq 0 1 i2t 0 1 ljy 0 1 kac 0 1 saj 0 1 qx8 0 1 tot 0 1 r63",
  "0 1 iqb 0 1 g1s 0 1 gxs 2 1 hga 1 1 k8k 2 1 g66 0 1 mqy 0 1 ngq 0 1 ny4 0 1 nz2 0 1 nz9 0 1",
  "o0f 0 1 tw6 0 1 on2 0 1 p8d 1 1 qhe 1 1 rg8 2 1 shk 0 1 sn1 3 1 u7j 0 1 u7w 0 1 u94 0 1 v5g",
  "0 1 sm6 0 1 trr 0 1 fqm 0 1 fzb 0 1 g25 0 1 gcp 0 1 gdg 0 1 ggh 0 1 gwt 0 1 gzq 0 1 h2g 0 1",
  "hfk 0 1 hig 0 1 i90 0 1 i9a 0 1 j2s 0 1 j8o 0 1 j9q 0 1 jci 0 1 k0f 0 1 k4i 0 1 k9d 0 1 kn9",
  "0 1 lmf 0 1 lqy 0 1 lya 0 1 mem 0 1 mjv 0 1 mxu 0 1 ntd 0 1 ny6 0 1 nyh 0 1 nyg 0 1 nyo 0 1",
  "nyu 0 1 nz1 0 1 o0d 0 1 o0e 0 1 o5c 0 1 o75 0 1 og0 0 1 ovo 0 1 ow9 0 1 oxt 0 1 p6a 0 1 pad",
  "0 1 pnx 0 1 prt 0 1 prt 0 1 q53 0 1 r2o 0 1 r6e 0 1 rgh 0 1 ri1 0 1 rtf 0 1 ruw 0 1 sdy 0 1",
  "shk 0 1 tsz 0 1 u0v 0 1 u2j 0 1 j1x 0 1 36cu 0 1 pp4 2 1 ffq 0 1 g51 0 1 g2w 0 1 fpc 0 1 g1x",
  "0 1 g3k 0 1 gcn 0 1 ge2 0 1 gwt 0 1 gut 0 1 gwp 0 1 gyq 0 1 hga 0 1 hir 0 1 hms 0 1 hn8 0 1",
  "huq 0 1 i08 0 1 iqa 0 1 iqh 0 1 iuh 0 1 iwd 0 1 j4o 0 1 j7y 0 1 j60 0 1 j9q 0 1 j8g 0 1 jci",
  "0 1 jec 0 1 jpg 0 1 jrw 0 1 jte 0 1 k0m 0 1 k8k 0 1 kd3 0 1 kd7 0 1 keu 0 1 l89 0 1 la2 0 1",
  "lkx 0 1 lwb 0 1 lvv 0 1 lya 0 1 m5a 0 1 mem 0 1 nmv 0 1 mk5 0 1 mnj 0 1 mqy 0 1 n01 0 1 n46",
  "0 1 n5n 0 1 nbx 0 1 nbz 0 1 ngq 0 1 nh7 0 1 nhw 0 1 nka 0 1 nk0 0 1 nv0 0 1 o8h 0 1 og0 0 1",
  "ol7 0 1 orf 0 1 ovo 0 1 p4u 0 1 pad 0 1 pxu 0 1 q27 0 1 qrd 0 1 r41 0 1 r5y 0 1 r6e 0 1 ren",
  "0 1 rg8 0 1 rez 0 1 rgh 0 1 rge 0 1 rfx 0 1 ri1 0 1 rka 0 1 ruw 0 1 sag 0 1 sj6 0 1 srd 0 1",
  "sxi 0 1 tq4 0 1 tsz 0 1 tw6 0 1 tzv 0 1 u0v 0 1 u17 0 1 u2j 0 1 umq 0 1 vj0 0 1 313e 0 1",
  "3138 0 1 33dh 0 1 brx 0 1 cns 0 1 cop 0 1 39e1 0 1 3bgw 0 1 3i6r 0 1 vgj 0 1 vim 12 2 2u 2u",
  "0 2 2u 2x 0 2 2u 30 0 3 2u 2u 2x 0 3 2u 2u 30 0 2 37 38 0 2 37 38 c 2 12s 12u 0 2 12s 12d 0",
  "2 12s 12j 0 2 132 12u 0 2 12s 12l 5 2 15l 14k 1 2 16a 14n 0 1 15u 0 1 15c 0 1 15f 0 1 15g 3",
  "1 160 0 1 162 0 1 17 0 2 161 14x 0 2 161 14y 0 3 161 14s 14x 0 3 161 14s 14y 0 2 15c 14n 0 2",
  "15c 14o 0 2 15c 14s 0 2 15d 14s 0 2 15e 14s 0 2 15f 14s 0 2 15g 14s 0 2 15h 14s 0 2 15i 14s",
  "1 2 15k 14s 0 2 15l 14s 0 2 15m 14s 0 2 15n 14s 0 2 15o 14s 1 2 15q 14s 1 2 15s 14s 0 2 15t",
  "14s 1 2 15v 14s 0 2 15w 14s 1 2 15y 14s 0 2 15z 14s 0 2 160 14s 0 2 161 14s 0 2 162 14s 0 2",
  "15h 14p 0 2 15d 14v 0 2 15n 14v 0 2 15w 14v 0 2 15c 15o 0 1 19t 0 1 19t 1c 1 1al 0 1 1al 0 1",
  "1ak 0 1 1ak 0 1 1am 0 1 1am 0 1 1ag 0 1 1ag 0 1 1aw 0 1 1aw 0 1 1ap 0 1 1ap g 1 1bu 0 1 1bu",
  "4 1 1c0 0 1 1c0 8 1 1ci 0 1 1ci 0 1 1cj 0 1 1cj 11 1 1c7 0 1 1c7 0 1 1c6 0 1 1c6 0 1 1c8 0 1",
  "1c8 0 2 1c7 19w 0 1 1cb 0 1 1cb 0 1 1c5 0 1 1c5 0 1 1c9 0 1 1c9 4 1 18p 0 1 18p 0 2 17q 17r",
  "0 2 17q 17r 0 2 17q 1cl 0 2 17q 1cl 0 2 17q 18o 0 2 17q 18o 0 2 17q 1c7 0 2 17q 1c7 0 2 17q",
  "1c6 0 2 17q 1c6 0 2 17q 1c8 0 2 17q 1c8 0 2 17q 1cg 0 2 17q 1cg 0 2 17q 1cg 0 2 17q 18p 0 2",
  "17q 18p 0 2 17q 18p 4 2 17q 17w 0 2 17q 17x 0 2 17q 18l 0 2 17q 18p 0 2 17q 18q 0 2 17s 17w",
  "0 2 17s 17x 0 2 17s 17y 0 2 17s 18l 0 2 17s 18p 0 2 17s 18q 0 2 17u 17w 0 2 17u 17x 0 2 17u",
  "17y 0 2 17u 18l 0 2 17u 18p 0 2 17u 18q 0 2 17v 17w 0 2 17v 18l 0 2 17v 18p 0 2 17v 18q 0 2",
  "17w 17x 0 2 17w 18l 0 2 17x 17w 0 2 17x 18l 0 2 17y 17w 0 2 17y 17x 0 2 17y 18l 0 2 183 17w",
  "0 2 183 17x 0 2 183 17y 0 2 183 18l 0 2 185 17x 0 2 185 18l 0 2 186 17w 0 2 186 17x 0 2 186",
  "17y 0 2 186 18l 0 2 187 17x 0 2 187 18l 0 2 188 18l 0 2 189 17w 0 2 189 18l 0 2 18a 17w 0 2",
  "18a 18l 0 2 18h 17w 0 2 18h 17x 0 2 18h 17y 0 2 18h 18l 0 2 18h 18p 0 2 18h 18q 0 2 18i 17x",
  "0 2 18i 18l 0 2 18i 18p 0 2 18i 18q 0 2 18j 17r 0 2 18j 17w 0 2 18j 17x 0 2 18j 17y 0 2 18j",
  "18k 0 2 18j 18l 0 2 18j 18p 0 2 18j 18q 0 2 18k 17w 0 2 18k 17x 0 2 18k 17y 0 2 18k 18l 0 2",
  "18k 18p 0 2 18k 18q 0 2 18l 17w 0 2 18l 17x 0 2 18l 17y 0 2 18l 18l 0 2 18l 18p 0 2 18l 18q",
  "0 2 18m 17w 0 2 18m 17x 0 2 18m 17y 0 2 18m 18l 0 2 18m 18p 0 2 18m 18q 0 2 18n 17w 0 2 18n",
  "18l 0 2 18n 18p 0 2 18n 18q 0 2 18q 17w 0 2 18q 17x 0 2 18q 17y 0 2 18q 18l 0 2 18q 18p 0 2",
  "18q 18q 0 2 180 19s 0 2 181 19s 0 2 18p 19s 0 3 w 18s 18x 0 3 w 18t 18x 0 3 w 18u 18x 0 3 w",
  "18v 18x 0 3 w 18w 18x 0 3 w 18x 19s 0 2 17q 181 0 2 17q 182 0 2 17q 18l 0 2 17q 18m 0 2 17q",
  "18p 0 2 17q 18q 0 2 17s 181 0 2 17s 182 0 2 17s 18l 0 2 17s 18m 0 2 17s 18p 0 2 17s 18q 0 2",
  "17u 181 0 2 17u 182 0 2 17u 18l 0 2 17u 18m 0 2 17u 18p 0 2 17u 18q 0 2 17v 181 0 2 17v 182",
  "0 2 17v 18l 0 2 17v 18m 0 2 17v 18p 0 2 17v 18q 0 2 18h 18p 0 2 18h 18q 0 2 18i 18p 0 2 18i",
  "18q 0 2 18j 17r 0 2 18j 18k 0 2 18j 18l 0 2 18j 18p 0 2 18j 18q 0 2 18k 18l 0 2 18k 18p 0 2",
  "18k 18q 0 2 18l 17r 0 2 18l 18l 0 2 18m 181 0 2 18m 182 0 2 18m 18l 0 2 18m 18m 0 2 18m 18p",
  "0 2 18m 18q 0 2 18p 19s 0 2 18q 181 0 2 18q 182 0 2 18q 18l 0 2 18q 18m 0 2 18q 18p 0 2 18q",
  "18q 0 2 17q 17w 0 2 17q 17x 0 2 17q 17y 0 2 17q 18l 0 2 17q 18n 0 2 17s 17w 0 2 17s 17x 0 2",
  "17s 17y 0 2 17s 18l 0 2 17s 18n 0 2 17u 17w 0 2 17u 17x 0 2 17u 17y 0 2 17u 18l 0 2 17u 18n",
  "0 2 17v 18l 0 2 17w 17x 0 2 17w 18l 0 2 17x 17w 0 2 17x 18l 0 2 17y 17w 0 2 17y 18l 0 2 183",
  "17w 0 2 183 17x 0 2 183 17y 0 2 183 18l 0 2 185 17x 0 2 185 17y 0 2 185 18l 0 2 186 17w 0 2",
  "186 17x 0 2 186 17y 0 2 186 18l 0 2 187 17x 0 2 188 18l 0 2 189 17w 0 2 189 18l 0 2 18a 17w",
  "0 2 18a 18l 0 2 18h 17w 0 2 18h 17x 0 2 18h 17y 0 2 18h 18l 0 2 18i 17x 0 2 18i 18l 0 2 18j",
  "17w 0 2 18j 17x 0 2 18j 17y 0 2 18j 18k 0 2 18j 18l 0 2 18k 17w 0 2 18k 17x 0 2 18k 17y 0 2",
  "18k 18l 0 2 18k 18n 0 2 18l 17w 0 2 18l 17x 0 2 18l 17y 0 2 18l 18l 0 2 18m 17w 0 2 18m 17x",
  "0 2 18m 17y 0 2 18m 18l 0 2 18m 18n 0 2 18n 17w 0 2 18n 18l 0 2 18n 19s 0 2 18q 17w 0 2 18q",
  "17x 0 2 18q 17y 0 2 18q 18l 0 2 18q 18n 0 2 17q 18l 0 2 17q 18n 0 2 17s 18l 0 2 17s 18n 0 2",
  "17u 18l 0 2 17u 18n 0 2 17v 18l 0 2 17v 18n 0 2 183 18l 0 2 183 18n 0 2 184 18l 0 2 184 18n",
  "0 2 18j 18k 0 2 18j 18l 0 2 18k 18l 0 2 18m 18l 0 2 18m 18n 0 2 18q 18l 0 2 18q 18n 0 3 18g",
  "18u 18x 0 3 18g 18v 18x 0 3 18g 18w 18x 0 2 187 18p 0 2 187 18q 0 2 189 18p 0 2 189 18q 0 2",
  "18a 18p 0 2 18a 18q 0 2 183 18p 0 2 183 18q 0 2 184 18p 0 2 184 18q 0 2 17x 18p 0 2 17x 18q",
  "0 2 17w 18p 0 2 17w 18q 0 2 17y 18p 0 2 17y 18q 0 2 185 18p 0 2 185 18q 0 2 186 18p 0 2 186",
  "18q 0 2 184 17w 0 2 184 17x 0 2 184 17y 0 2 184 18l 0 2 184 181 0 2 183 181 0 2 185 181 0 2",
  "186 181 0 2 187 18p 0 2 187 18q 0 2 189 18p 0 2 189 18q 0 2 18a 18p 0 2 18a 18q 0 2 183 18p",
  "0 2 183 18q 0 2 184 18p 0 2 184 18q 0 2 17x 18p 0 2 17x 18q 0 2 17w 18p 0 2 17w 18q 0 2 17y",
  "18p 0 2 17y 18q 0 2 185 18p 0 2 185 18q 0 2 186 18p 0 2 186 18q 0 2 184 17w 0 2 184 17x 0 2",
  "184 17y 0 2 184 18l 0 2 184 181 0 2 183 181 0 2 185 181 0 2 186 181 0 2 184 17w 0 2 184 17x",
  "0 2 184 17y 0 2 184 18l 0 2 183 18n 0 2 184 18n 0 2 187 18l 0 2 183 17w 0 2 183 17x 0 2 183",
  "17y 0 2 184 17w 0 2 184 17x 0 2 184 17y 0 2 187 18l 0 2 188 18l 0 2 17r 18r 0 2 17r 18r i 3",
  "17u 17w 18l 0 3 17u 17x 17w 0 3 17u 17x 17w 0 3 17u 17x 18l 0 3 17u 17y 18l 0 3 17u 18l 17w",
  "0 3 17u 18l 17x 0 3 17u 18l 17y 0 3 17w 18l 17x 0 3 17w 18l 17x 0 3 17x 18l 18q 0 3 17x 18l",
  "18p 0 3 183 17x 17w 0 3 183 17w 17x 0 3 183 17w 18p 0 3 183 18l 17x 0 3 183 18l 17x 0 3 183",
  "18l 17w 0 3 183 18l 18l 0 3 183 18l 18l 0 3 185 17x 17x 0 3 185 17x 17x 0 3 185 18l 18l 0 3",
  "184 17x 18l 0 3 184 17x 18l 0 3 184 17w 18q 0 3 184 18l 17y 0 3 184 18l 17y 0 3 184 18l 18l",
  "0 3 184 18l 18l 0 3 186 17x 18p 0 3 186 17y 18l 0 3 186 17y 18l 0 3 187 18l 17x 0 3 187 18l",
  "17x 0 3 187 18l 18l 0 3 187 18l 18q 0 3 189 17w 18l 0 3 189 18l 18l 0 3 189 18l 18l 0 3 189",
  "18l 18p 0 3 18a 18l 18l 0 3 18a 18l 18q 0 3 18a 18l 18p 0 3 18h 17y 18l 0 3 18h 17y 18l 0 3",
  "18i 18l 17x 0 3 18i 18l 18l 0 3 18k 17x 18l 0 3 18k 17x 18q 0 3 18k 17x 18p 0 3 18k 17w 17w",
  "0 3 18k 17w 17w 0 3 18k 17y 18l 0 3 18k 17y 18l 0 3 18k 18l 17x 0 3 18k 18l 17x 0 3 18l 17x",
  "17w 0 3 18l 17x 18l 0 3 18l 17x 18q 0 3 18l 17w 17x 0 3 18l 17w 18l 0 3 18l 17y 17w 0 3 18l",
  "17y 18l 2 3 18l 17w 17y 0 3 18n 18l 17w 0 3 18n 18l 18l 0 3 18m 17x 18l 0 3 18m 17x 18p 0 3",
  "18m 17w 18l 0 3 18m 17w 18l 0 3 18m 17w 18p 0 3 18m 18l 18q 0 3 18m 18l 18p 0 3 18q 18l 18l",
  "0 3 18q 18l 18l 0 3 17s 17y 18q 0 3 17u 17w 18q 0 3 17u 17w 18p 0 3 17u 17y 18q 0 3 17u 17y",
  "18p 0 3 17u 18l 18q 0 3 17u 18l 18p 0 3 17w 18l 18q 0 3 17w 17x 18p 0 3 17w 18l 18p 0 3 183",
  "17y 18p 0 3 185 17x 18q 0 3 184 17x 18q 0 3 186 17x 18q 0 3 18k 17w 18q 0 3 18k 18l 18q 0 3",
  "18q 17x 18q 0 3 18q 17w 18q 0 3 18q 18l 18q 0 3 18l 18l 18q 0 3 18i 18l 18q 0 3 18m 17x 18q",
  "0 3 18i 18l 17x 0 3 18k 17x 18l 0 3 189 18l 18q 0 3 18j 18l 18q 0 3 18m 17w 17x 0 3 18l 17y",
  "18q 0 3 18k 17w 18l 0 3 18j 18l 18l 0 3 18k 17w 18l 0 3 18m 17w 17x 0 3 17w 17x 18q 0 3 17x",
  "17w 18q 0 3 18l 17w 18q 0 3 18h 18l 18q 0 3 17s 17x 18q 0 3 18j 18l 18l 0 3 189 17w 18l 0 3",
  "185 18l 18l 0 3 183 17y 18q 0 3 18m 17w 18q 14 3 185 18k 1ci 0 3 18i 18k 1ci 0 4 17r 18k 18k",
  "18n 0 4 17r 18j 17s 181 0 4 18l 17x 18l 17z 0 4 185 18k 189 18l 0 4 181 183 18o 18k 0 4 189",
  "18k 18q 18n 0 4 18o 183 18k 18l 0 3 185 18k 18p 0 i 185 18k 18p w 17r 18k 18k 18n w 189 18k",
  "18q 18n w 18o 183 18k 18l 0 8 17w 18k w 17w 18k 17r 18k 18n 0 4 181 1cc 17r 18k j 1 18 0 1",
  "9hd 1 1 1m 0 1 1n 0 1 x 0 1 1r 0 1 9hy 0 1 9hz o 1 6c4 0 1 6c3 0 1 2n 0 1 2n 0 1 14 0 1 15 0",
  "1 3f 0 1 3h 0 1 9hw 0 1 9hx 0 1 9hs 0 1 9ht 0 1 9hm 0 1 9hn 0 1 9hk 0 1 9hl 6 1 2j 0 1 2l 0",
  "2 w lh 0 2 w lh 0 2 w lh 0 2 w lh 3 1 18 0 1 9hd 2 1 1n 0 1 1m 0 1 1r 0 1 x 0 1 6c4 0 1 14 0",
  "1 15 0 1 3f 0 1 3h 0 1 9hw 0 1 9hx 0 1 z 0 1 12 0 1 16 0 1 17 0 1 19 0 1 1o 0 1 1q 0 1 1p 1",
  "1 2k 0 1 10 0 1 11 0 1 1s 4 2 w 18r 0 2 18g 18r 0 2 w 18s 1 2 w 18t 1 2 w 18u 0 2 18g 18u 0",
  "2 w 18v 0 2 18g 18v 0 2 w 18w 0 2 18g 18w 0 2 w 18x 0 2 18g 18x 0 2 w 18y 0 2 18g 18y 0 1",
  "17l 0 1 17m 0 1 17m 0 1 17n 0 1 17n 0 1 17o 0 1 17o 0 1 17p 0 1 17p 0 1 17q 3 1 17r 0 1 17r",
  "4 1 17t 0 1 17t k 1 17z 0 1 17z 0 1 180 0 1 180 0 1 181 0 1 181 0 1 182 0 1 182 1o 1 18o 0 1",
  "18o 0 1 18p 0 1 18p 4 2 18k 17m 0 2 18k 17m 0 2 18k 17n 0 2 18k 17n 0 2 18k 17p 0 2 18k 17p",
  "0 2 18k 17r 0 2 18k 17r 2q 1 879 0 1 87a 0 1 1a 0 1 9ho 0 1 9hp 0 1 9hd 0 1 9ob 0 1 9o2 8 1",
  "9mr 0 1 9oc q 1 9n6 0 1 9n9 0 1 9nc 0 1 9nf d 1 9nz 0 1 9o3 0 1 9ll 0 1 9lm 1 1 3cw 0 1 3cx",
  "0 1 3hm 0 1 3cy 0 1 3ho 0 1 3hp 9 1 3dm 3 1 3dt 17 1 4i 0 1 4j 0 1 4s 0 2 w lg 0 1 4m 0 1 4l",
  "0 1 6g9 1 1 7b6 4 1 7fk 0 1 7gr 145 1 1fp7 0 1 1fp8 dn 1 k0 0 1 k1 0 1 6e 0 1 ih 0 1 gj 1 1",
  "ir 0 1 xuu 0 1 it 0 1 is 0 1 gm 0 1 gn 0 1 5u9 0 1 go 0 1 gu 0 1 ix 0 1 h0 0 1 gy 0 1 gw 0 1",
  "ij 0 1 87 0 1 ik 0 1 h3 0 1 hw 0 1 iy 0 1 iz 0 1 h8 0 1 2mmc 0 1 x3i 0 1 ha 0 1 2mmd 0 1 i6",
  "0 1 2mme 0 1 6w 0 1 hi 0 1 hj 0 1 35 0 1 hm 0 1 2mmg 0 1 hp 0 1 hq 0 1 hs 0 1 iw 0 1 iu 0 1",
  "xuv 0 1 iv 0 1 i0 0 1 8s1 1 1 i7 0 1 ip 0 1 iq 0 1 ig 3 1 2mmi 0 1 2mn2 13tv 2 2jx3 2jxh 0 2",
  "2jx4 2jxh 0 3 2jx4 2jxh 2jxq 0 3 2jx4 2jxh 2jxr 0 3 2jx4 2jxh 2jxs 0 3 2jx4 2jxh 2jxt 0 3",
  "2jx4 2jxh 2jxu 2e 2 2jzt 2jxh 0 2 2jzu 2jxh 0 3 2jzt 2jxh 2jxq 0 3 2jzu 2jxh 2jxq 0 3 2jzt",
  "2jxh 2jxr 0 3 2jzu 2jxh 2jxr kb 1 2p 1 1 2r 0 1 2s 2 1 2v 2 1 2y 0 1 2z k 1 2u 1 1 2w 1y 1",
  "2p 0 1 2q 1e 1 2p 0 1 2q c 1 33 9p 1 8h 0 1 fr j 1 qg 7 1 6pz h 1 qr 0 1 qr 6 1 6pu 0 1 qd 0",
  "1 qg 0 1 qi 0 1 qu 0 1 qp 0 1 qo h 1 qg 7 1 6pz h 1 qr 0 1 qr 6 1 6pu 0 1 qd 0 1 qg 0 1 qi 0",
  "1 qu 0 1 qp 0 1 qo h 1 qg 7 1 6pz h 1 qr 0 1 qr 6 1 6pu 0 1 qd 0 1 qg 0 1 qi 0 1 qu 0 1 qp 0",
  "1 qo h 1 qg 7 1 6pz h 1 qr 0 1 qr 6 1 6pu 0 1 qd 0 1 qg 0 1 qi 0 1 qu 0 1 qp 0 1 qo h 1 qg 7",
  "1 6pz h 1 qr 0 1 qr 6 1 6pu 0 1 qd 0 1 qg 0 1 qi 0 1 qu 0 1 qp 0 1 qo 0 1 rh 0 1 rh 1ob 1 uj",
  "0 1 ul 0 1 um 0 1 ww9 0 1 yh 0 1 uu 0 1 uw 0 1 yx 0 1 xb 0 1 y7 9 1 u2 0 1 u3 0 1 u6 0 1 u7",
  "0 1 u9 0 1 ub 5 1 ui 0 1 uj 0 1 wh 0 1 uu 0 1 ut 0 1 v3 0 1 x7 0 1 wup 0 1 xd 2oi 1 17r 0 1",
  "17s 0 1 17w 0 1 17z 1 1 18o 0 1 182 0 1 17x 0 1 187 0 1 18q 4 1 183 0 1 189 0 1 18h 0 1 185",
  "0 1 18i 0 1 181 0 1 184 0 1 17u 0 1 17v 0 1 17y 0 1 180 3 1 19q 0 1 1bu 0 1 1b5 0 1 19r 1 1",
  "17s 0 1 17w 1 1 18n 2 1 17x 1 1 18q 4 1 183 0 1 189 0 1 18h 0 1 185 0 1 18i 1 1 184 0 1 17u",
  "0 1 17v 0 1 17y 1 1 186 1 1 18a 6 1 17w 4 1 17x 1 1 18q 1 1 18k 1 1 18m 0 1 183 0 1 189 1 1",
  "185 0 1 18i 1 1 184 2 1 17y 1 1 186 1 1 18a 1 1 1bu 1 1 19r 1 1 17s 0 1 17w 1 1 18n 2 1 17x",
  "0 1 187 0 1 18q 0 1 18j 1 1 18l 0 1 18m 0 1 183 0 1 189 0 1 18h 0 1 185 0 1 18i 1 1 184 0 1",
  "17u 0 1 17v 0 1 17y 4 1 19q 1 1 1b5 1 1 17r 0 1 17s 0 1 17w 0 1 17z 0 1 18n 0 1 18o 0 1 182",
  "0 1 17x 0 1 187 0 1 18q 4 1 183 0 1 189 0 1 18h 0 1 185 0 1 18i 0 1 181 0 1 184 0 1 17u 0 1",
  "17v 0 1 17y 0 1 180 8 1 17s 0 1 17w 0 1 17z 1 1 18o 0 1 182 0 1 17x 0 1 187 0 1 18q 4 1 183",
  "0 1 189 0 1 18h 0 1 185 0 1 18i 0 1 181 0 1 184 0 1 17u 0 1 17v 0 1 17y 0 1 180 g8 2 1c 18 0",
  "2 1d 18 0 2 1e 18 0 2 1f 18 0 2 1g 18 0 2 1h 18 0 2 1i 18 0 2 1j 18 0 2 1k 18 0 2 1l 18 5 3",
  "14 2p 15 0 3 14 2q 15 0 3 14 2r 15 0 3 14 2s 15 0 3 14 2t 15 0 3 14 2u 15 0 3 14 2v 15 0 3",
  "14 2w 15 0 3 14 2x 15 0 3 14 2y 15 0 3 14 2z 15 0 3 14 30 15 0 3 14 31 15 0 3 14 32 15 0 3",
  "14 33 15 0 3 14 34 15 0 3 14 35 15 0 3 14 36 15 0 3 14 37 15 0 3 14 38 15 0 3 14 39 15 0 3",
  "14 3a 15 0 3 14 3b 15 0 3 14 3c 15 0 3 14 3d 15 0 3 14 3e 15 0 3 9hw 37 9hx 0 1 2r 0 1 36 0",
  "2 2r 2s 0 2 3b 3e r 2 2w 3a 0 2 31 3a 0 2 37 2s 0 2 37 37 0 3 34 34 3a 0 2 3b 2r q 2 31 2r 0",
  "2 31 2s 0 2 31 36 z 2 2s 2y 33 2 9kr 9jf 0 2 9mb 9mb 0 1 9md d 1 jez 0 1 i1j 0 1 gjw 0 1 9mv",
  "0 1 fik 0 1 hlm 0 1 r8j 0 1 hm1 0 1 fj8 0 1 k68 0 1 mch 0 1 k2h 0 1 g99 0 1 ivg 0 1 g3x 0 1",
  "k34 0 1 g7x 0 1 oqq 0 1 n4v 0 1 rs9 0 1 hkg 0 1 gmx 0 1 lxw 0 1 jh1 0 1 jmd 0 1 feo 0 1 fex",
  "0 1 si2 0 1 ijq 0 1 ffx 0 1 gkz 0 1 jk7 0 1 rxs 0 1 jf7 0 1 o01 0 1 o6y 0 1 glk 0 1 lts 0 1",
  "kcp 0 1 kco 0 1 n5f 0 1 gaa 0 1 gxi 0 1 sp9 4 3 9hw kdo 9hx 0 3 9hw fex 9hx 0 3 9hw fik 9hx",
  "0 3 9hw i2x 9hx 0 3 9hw m9l 9hx 0 3 9hw jf7 9hx 0 3 9hw nh3 9hx 0 3 9hw gd9 9hx 0 3 9hw k0n",
  "9hx 7 1 ivr 0 1 gkv 1fou 1 fgd 0 1 fg8 0 1 fgh 0 1 2tcy 0 1 fog 0 1 fqm 0 1 fqz 0 1 fsy 0 1",
  "fwa 0 1 fx5 0 1 fzb 0 1 fyn 0 1 ae6 0 1 2ud6 0 1 g25 0 1 g2c 0 1 g2s 0 1 g3b 0 1 2u58 0 1",
  "aex 0 1 g2v 0 1 g3x 0 1 2u6j 0 1 g47 0 1 g4k 0 1 fkc 0 1 g4s 0 1 g51 0 1 3ly7 0 1 g6t 0 1",
  "g77 0 1 afz 0 1 g8r 0 1 g92 0 1 gaa 0 1 gaf 0 1 ahh 0 1 gcn 0 1 gcp 0 1 gdg 0 1 ge2 0 1 ged",
  "0 1 gee 0 1 gev 0 1 gg9 0 1 ggh 0 1 ggq 0 1 ghf 0 1 ghp 0 1 ghr 0 1 ghr 0 1 ghr 0 1 2v58 0 1",
  "m7k 0 1 gju 0 1 gkf 0 1 2vdv 0 1 gkr 0 1 gkx 0 1 gli 0 1 gpq 0 1 gmw 0 1 gnc 0 1 go8 0 1 gpu",
  "0 1 gs6 0 1 gsw 0 1 gur 0 1 gv7 0 1 gw4 0 1 gw4 0 1 gwp 0 1 gx7 0 1 gxf 0 1 gxu 0 1 h7a 0 1",
  "gzq 0 1 h7b 0 1 h1t 0 1 h2s 0 1 g7b 0 1 hke 0 1 hce 0 1 hdg 0 1 he5 0 1 haj 0 1 hf6 0 1 hf5",
  "0 1 hik 0 1 2x9g 0 1 hki 0 1 hkn 0 1 hl2 0 1 hlm 0 1 hlu 0 1 hnm 0 1 2xm0 0 1 2xnu 0 1 hrg 0",
  "1 hsr 0 1 ht3 0 1 hqw 0 1 huu 0 1 aum 0 1 av0 0 1 hzc 0 1 i0u 0 1 i0u 0 1 2y88 0 1 i4j 0 1",
  "i54 0 1 i5j 0 1 i5v 0 1 2yhk 0 1 i67 0 1 i6e 0 1 itv 0 1 i76 0 1 ayp 0 1 i8w 0 1 i9a 0 1 ibk",
  "0 1 ia5 0 1 2z1g 0 1 if7 0 1 2z1i 0 1 ige 0 1 igb 0 1 igs 0 1 ijl 0 1 ijm 0 1 b3j 0 1 ikd 0",
  "1 ilk 0 1 im5 0 1 ind 0 1 b4y 0 1 2zr7 0 1 b5o 0 1 ipc 0 1 ipf 0 1 ipi 0 1 iq2 0 1 3pg2 0 1",
  "iri 0 1 3035 0 1 3035 0 1 poh 0 1 isi 0 1 isi 0 1 b7r 0 1 335k 0 1 3cgq 0 1 iua 0 1 iuj 0 1",
  "b8j 0 1 ivu 0 1 ix9 0 1 ixj 0 1 iyh 0 1 j29 0 1 bay 0 1 ba4 0 1 j2s 0 1 30t0 0 1 j47 0 1 j7s",
  "0 1 j7w 0 1 j7y 0 1 j7w 0 1 j96 0 1 j9q 0 1 jaq 0 1 jac 0 1 jan 0 1 jby 0 1 jci 0 1 jcm 0 1",
  "jdc 0 1 jdn 0 1 jfh 0 1 jht 0 1 jis 0 1 jm8 0 1 31n0 0 1 jlp 0 1 jjw 0 1 jmw 0 1 jnn 0 1 jqc",
  "0 1 31td 0 1 js2 0 1 jph 0 1 jop 0 1 bhq 0 1 ju1 0 1 jum 0 1 jvh 0 1 juf 0 1 bjg 0 1 k0f 0 1",
  "k18 0 1 32mi 0 1 k4j 0 1 kc8 0 1 k7d 0 1 bo9 0 1 k9d 0 1 bns 0 1 bms 0 1 g42 0 1 g45 0 1 kcg",
  "0 1 k9o 0 1 pf1 0 1 deh 0 1 kd3 0 1 kd7 0 1 kdd 0 1 kf2 0 1 ker 0 1 33cz 0 1 bpl 0 1 kje 0 1",
  "kg5 0 1 klu 0 1 kn9 0 1 33hp 0 1 kni 0 1 kkf 0 1 kr8 0 1 brx 0 1 ksi 0 1 kv7 0 1 kx6 0 1 l2g",
  "0 1 33xf 0 1 l3v 0 1 bvc 0 1 l5t 0 1 34br 0 1 l78 0 1 bwu 0 1 l82 0 1 l9b 0 1 la2 0 1 la3 0",
  "1 34p9 0 1 2yvf 0 1 34sa 0 1 le6 0 1 354s 0 1 lhb 0 1 lhp 0 1 lev 0 1 ljq 0 1 lku 0 1 lmf 0",
  "1 lkx 0 1 lm1 0 1 lmg 0 1 lmt 0 1 357i 0 1 lkk 0 1 lrj 0 1 lta 0 1 c37 0 1 lvv 0 1 lvr 0 1",
  "35jl 0 1 lq1 0 1 m0e 0 1 35ni 0 1 35ou 0 1 m2u 0 1 m61 0 1 m5a 0 1 m57 0 1 c5y 0 1 m6i 0 1",
  "m7x 0 1 m7r 0 1 m99 0 1 2u5h 0 1 mdh 0 1 368z 0 1 mfw 0 1 36i3 0 1 mjs 0 1 mk5 0 1 mkw 0 1",
  "36yw 0 1 mm8 0 1 mmt 0 1 3779 0 1 37dg 0 1 mt6 0 1 mtn 0 1 cdo 0 1 mud 0 1 ce0 0 1 ce0 0 1",
  "myv 0 1 mzg 0 1 n01 0 1 n0l 0 1 n2i 0 1 cgr 0 1 n50 0 1 386u 0 1 n5q 0 1 389e 0 1 n74 0 1",
  "2zrz 0 1 nbk 0 1 38v5 0 1 38vs 0 1 38zo 0 1 cn0 0 1 cnc 0 1 nhw 0 1 394j 0 1 394i 0 1 395l 0",
  "1 396b 0 1 nj2 0 1 nj3 0 1 nj3 0 1 nka 0 1 cop 0 1 nm3 0 1 cp2 0 1 cra 0 1 39r1 0 1 nri 0 1",
  "nt8 0 1 nv0 0 1 ctf 0 1 3a5i 0 1 nyu 0 1 3a8q 0 1 3a9x 0 1 o0f 0 1 o2z 0 1 cvj 0 1 o5c 0 1",
  "o5m 0 1 o5r 0 1 3at8 0 1 3b1j 0 1 3b1j 0 1 oa6 0 1 d1e 0 1 3b8r 0 1 og6 0 1 og9 0 1 d2f 0 1",
  "3beo 0 1 onm 0 1 d5s 0 1 oo8 0 1 oo3 0 1 oow 0 1 3c06 0 1 orn 0 1 d8h 0 1 ouf 0 1 ow2 0 1",
  "oxx 0 1 d9w 0 1 3ciw 0 1 3cjr 0 1 dax 0 1 3cnt 0 1 p6i 0 1 3cqm 0 1 p79 0 1 pa2 0 1 pad 0 1",
  "3d22 0 1 3d43 0 1 pcw 0 1 3d7s 0 1 pdc 0 1 33a7 0 1 ded 0 1 pf6 0 1 phf 0 1 dfv 0 1 pj2 0 1",
  "hx1 0 1 3dlz 0 1 3dmd 0 1 33bn 0 1 33bw 0 1 poh 0 1 pok 0 1 sda 0 1 dij 0 1 psh 0 1 psb 0 1",
  "pst 0 1 gc3 0 1 ptd 0 1 ptf 0 1 ptp 0 1 puu 0 1 3ebg 0 1 put 0 1 pwd 0 1 pyb 0 1 q0d 0 1 pwj",
  "0 1 q0t 0 1 q1z 0 1 q53 0 1 pxv 0 1 q16 0 1 q18 0 1 q1o 0 1 3eie 0 1 3eqz 0 1 3emt 0 1 dnv 0",
  "1 q9d 0 1 q9f 0 1 qae 0 1 3g0a 0 1 qck 0 1 3f3g 0 1 dp9 0 1 dpd 0 1 3f75 0 1 3ff6 0 1 dpn 0",
  "1 qj4 0 1 qjg 0 1 qjr 0 1 qjt 0 1 qll 0 1 qko 0 1 qoe 0 1 qn6 0 1 qrd 0 1 qp4 0 1 qqz 0 1",
  "qrq 0 1 dsn 0 1 qu9 0 1 qv5 0 1 dtl 0 1 qxs 0 1 qxv 0 1 3giv 0 1 r13 0 1 r1a 0 1 dv9 0 1 r22",
  "0 1 aez 0 1 3gz2 0 1 3h46 0 1 dz2 0 1 dzb 0 1 rds 0 1 rfx 0 1 rka 0 1 rpx 0 1 3hrc 0 1 rsb 0",
  "1 rsx 0 1 rvf 0 1 rxz 0 1 3i9b 0 1 2upw 0 1 s0b 0 1 rzw 0 1 s1c 0 1 2uvy 0 1 s7o 0 1 sag 0 1",
  "3jki 0 1 3jl9 0 1 sk4 0 1 smp 0 1 snl 0 1 3ju6 0 1 snv 0 1 svs 0 1 t07 0 1 t08 0 1 sxo 0 1",
  "t89 0 1 t91 0 1 3ksa 0 1 tjf 0 1 ej9 0 1 tkn 0 1 3l2v 0 1 eli 0 1 ts3 0 1 iia 0 1 tur 0 1",
  "3ltx 0 1 3lzu 0 1 epa 0 1 epi 0 1 u00 0 1 3mdm 0 1 er6 0 1 3mhi 0 1 u17 0 1 u17 0 1 u21 0 1",
  "3mpi 0 1 u76 0 1 eur 0 1 u95 0 1 ucn 0 1 ude 0 1 uf2 0 1 ez2 0 1 3nsg 0 1 umq 0 1 uv4 0 1",
  "v0d 0 1 f66 0 1 f71 0 1 v3b 0 1 3owe 0 1 f7c 0 1 3oxx 0 1 3p5a 0 1 3p8x 0 1 vcr 0 1 f9y 0 1",
  "veh 0 1 vem 0 1 vet 0 1 vf3 0 1 vfa 0 1 vgb 0 1 3pxc"]

/-- What a character is mapped to, or none if it is not allowed. -/
def mapped? (c : Char) : Option (List Char) :=
  if c.toNat < 0x80 then some [c.toLower]
  else if disallowedRanges.contains c then none
  else if ignoredRanges.contains c then some []
  else match mappedRuns.get? c.toNat with
    | some n => some [Char.ofNat n]
    | none => some (((mappedPoints.get? c.toNat).map (List.map Char.ofNat)).getD [c])

def isStable (c : Char) : Bool := mapped? c == some [c]

end Rulebook.Url
