import Rulebook.Text.Ranges

namespace Rulebook.Pattern

open Text

def foldedForms : Points Nat := .ofRuns [
  "1t q 1 2p 1 2i 1 1 qk 0 a n 1 68 1 1 7 1 6w 1 x o 2 75 2 3 3 2 8j 2 2 8 2 8q 2 2 n 2 97 2 1",
  "1 1 73 0 0 3 2 ai 2 1 1 1 37 0 1 1 1 gj 0 0 2 2 ar 2 1 1 1 gk 0 0 1 1 aw 0 1 2 1 gm 1 0 1 1",
  "b0 0 2 1 1 d9 0 0 2 1 gp 2 0 1 1 b6 0 1 1 1 gw 0 0 1 1 gz 0 1 1 1 h5 0 0 1 1 h4 0 0 1 1 bd 0",
  "3 1 1 hb 0 0 1 1 he 0 1 1 1 hh 0 0 3 2 bl 2 1 1 1 hs 0 0 1 1 bs 0 1 1 1 hv 0 2 1 1 bx 0 1 1",
  "1 i0 0 0 1 1 c0 0 1 2 1 i2 1 0 2 2 c4 2 1 1 1 ia 0 0 1 1 c9 0 3 1 1 cd 0 7 2 1 cm 0 1 2 1 cp",
  "0 1 2 1 cs 0 1 8 2 cu 2 2 9 2 db 2 2 2 1 dv 0 1 1 1 dx 0 1 1 1 b9 0 0 1 1 cf 0 0 k 2 e1 2 1",
  "1 1 bi 0 1 9 2 f7 2 7 1 1 8rp 0 0 1 1 fw 0 1 1 1 be 0 0 1 1 8rq 0 2 1 1 g2 0 1 1 1 ao 0 0 1",
  "1 i1 0 0 1 1 i4 0 0 5 2 g7 2 6u 1 1 qh 0 16 2 2 oh 2 3 1 1 on 0 8 1 1 s3 0 6 2 2 q4 1 0 2 1",
  "q6 1 1 2 2 r0 1 0 1 1 r2 0 1 h 1 q9 1 1 9 1 qr 1 m 1 1 qr 0 c 1 1 rb 0 0 1 1 qa 0 0 1 1 qg 0",
  "3 1 1 qu 0 0 1 1 qo 0 1 c 2 rd 2 1 1 1 qi 0 0 1 1 qp 0 2 1 1 qg 0 0 1 1 qd 0 1 1 1 s8 0 1 1",
  "1 s2 0 0 1 1 sb 0 2 3 1 or 1 0 g 1 uo 1 0 w 1 ts 1 1c h 2 v5 2 9 r 2 wb 2 1 1 1 y7 0 0 7 2",
  "xu 2 2 1c 2 y9 2 2 12 1 129 1 289 12 1 8w0 1 1 1 1 8x3 0 5 1 1 8x9 0 mi 6 1 3xs 1 1oi 2 1 tu",
  "2 0 1 1 u6 0 0 2 1 u9 1 0 1 1 ua 0 0 1 1 ui 0 0 1 1 v7 0 0 1 1 wuj 0 0 1 1 5my 0 6 17 1 3bk",
  "1 2 3 1 3ct 1 8w 23 2 5xd 2 6 1 1 601 0 2 1 1 67 0 1 1c 2 61t 2 9 8 1 64g 1 8 6 1 64w 1 a 8",
  "1 65c 1 8 8 1 65s 1 8 6 1 668 1 b 4 2 66p 2 8 8 1 674 1 o 8 1 680 1 8 8 1 68g 1 8 8 1 68w 1",
  "8 2 1 69c 1 0 2 1 67k 1 0 1 1 69f 0 1 1 1 qh 0 9 4 1 67m 1 0 1 1 69v 0 b 2 1 6a8 1 0 2 1 67q",
  "1 c 2 1 6ao 1 0 2 1 67u 1 0 1 1 6at 0 b 2 1 67s 1 0 2 1 67w 1 0 1 1 6b7 0 89 1 1 qx 0 3 1 1",
  "2z 0 0 1 1 6d 0 6 1 1 6ku 0 19 g 1 6ls 1 j 1 1 6mc 0 mq q 1 79s 1 1f4 1c 1 8q8 1 1c 1 1 8rl",
  "0 1 1 1 h7 0 0 1 1 5tp 0 0 1 1 hp 0 2 3 2 8rs 2 1 1 1 gh 0 0 1 1 hd 0 0 2 1 gg 2 1 1 1 8s3 0",
  "2 1 1 8s6 0 8 2 1 fz 1 0 1e 2 8sh 2 8 2 2 8vg 2 4 1 1 8vn 0 nyl n 2 wu9 2 j e 2 ww1 2 3r 7 2",
  "x0j 2 3 v 2 x0z 2 a 2 2 x2y 2 1 1 1 5tl 0 0 5 2 x33 2 4 1 1 x3g 0 1 1 1 h1 0 2 2 2 x3l 2 3 a",
  "2 x3r 2 1 1 1 h2 0 0 1 1 gs 0 0 1 1 gx 0 0 1 1 h8 0 0 1 1 h6 0 1 1 1 im 0 0 1 1 hz 0 0 1 1",
  "il 0 0 1 1 xub 0 0 8 2 x4l 2 1 1 1 x3o 0 0 1 1 hu 0 0 1 1 5u6 0 0 2 2 x54 2 1 1 1 h0 0 0 8 2",
  "x59 2 1 1 1 bf 0 o 1 1 x6e 0 oq 28 1 3vk 1 ggx q 1 1ef5 1 xx 14 1 1fe0 1 3s 10 1 1fiw 1 4c b",
  "1 1fo7 1 1 f 1 1foj 1 1 7 1 1foz 1 1 2 1 1fp7 1 1d6 1f 1 1h34 1 4d m 1 1h80 1 27u w 1 1jgg 1",
  "gw0 w 1 20dc 1 1s p 1 20fv 1 o5j y 1 2oma 1"]

def foldedForm (n : Nat) : Nat := (foldedForms.get? n).getD n

def caseVariants (c : Char) : List Char :=
  let form := foldedForm c.toNat
  let others := foldedForms.entries.toList.filter fun (_, f) ↦ f = form
  Char.ofNat form :: others.map fun (n, _) ↦ Char.ofNat n

def asciiVariants (c : Char) : List Char := [c, c.toLower, c.toUpper]

end Rulebook.Pattern
