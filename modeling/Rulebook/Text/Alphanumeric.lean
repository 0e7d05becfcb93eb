import Rulebook.Text.Ranges

namespace Rulebook.Text

def alphanumericRanges : Ranges := .ofLines [
  "1c 9 7 p 6 p 1b 0 7 1 1 0 3 1 1 2 1 m 1 u 1 cp 4 b e 4 7 0 1 0 2e 0 t h 1 1 2 3 1 0 6 0 1 2",
  "1 0 1 j 1 2a 1 3u 8 4l 1 11 2 0 6 14 13 d 1 0 1 1 1 1 1 0 8 q 4 3 t a 5 1j 1 g 4 2t 1 7 4 7",
  "4 f 2 0 g 1b d 2s e 16 9 1 4 0 5 n 2 i j o 7 a 5 n 1 6 7 0 8 15 a b 3 6 6 23 1 f 1 2 4 e 2 9",
  "1 i 1 7 2 1 2 l 1 6 1 0 3 3 3 7 2 1 2 1 1 0 8 0 4 1 1 4 2 b 2 5 2 0 4 2 1 5 4 1 2 l 1 6 1 1",
  "1 1 1 1 4 4 4 1 2 1 4 0 7 3 1 0 7 f b 2 1 8 1 2 1 l 1 6 1 1 1 4 3 8 1 2 1 1 3 0 f 3 2 9 9 3",
  "4 2 1 7 2 1 2 l 1 6 1 1 1 4 3 7 2 1 2 1 9 1 4 1 1 4 2 9 1 6 a 1 1 5 3 2 1 3 3 1 1 0 1 1 3 1",
  "3 2 3 b 4 4 3 2 1 2 3 0 6 0 e c d c 1 2 1 m 1 f 3 7 1 2 1 2 8 1 1 2 1 1 2 3 2 9 8 6 1 3 1 7",
  "1 2 1 m 1 9 1 4 3 7 1 2 1 2 8 1 5 2 1 3 2 9 1 2 c c 1 2 1 14 2 7 1 2 1 2 1 0 5 f 2 i 1 5 1 2",
  "1 h 3 n 1 8 1 0 2 6 8 5 1 0 1 7 6 9 2 1 d 1l 5 6 6 0 2 9 13 1 1 0 1 4 1 n 1 0 1 i 1 2 2 4 1",
  "0 6 0 2 9 2 3 w 0 v j c 7 1 z 4 i 4 f 1 z 1v 1i 1 0 2 e 6 25 2 11 1 0 5 0 2 16 1 98 1 3 2 6",
  "1 0 1 3 2 14 1 3 2 w 1 3 2 6 1 0 1 3 2 e 1 1k 1 3 2 1u e j 3 f g 2d 2 5 3 h7 2 g 1 p 5 22 3",
  "a 7 j b k c j c c 1 2 1 1 c 1f 2 i e 0 4 0 3 9 6 9 m 9 6 2g 7 16 5 1x a u 1 b 4 8 d 13 2 4 b",
  "17 4 p 6 a 11 r 4 1q 2 j b 9 6 9 d 0 n 1 b 2 1d 1f 1 e 1 7 3 9 12 15 2 1l 1 a e 1i 9 9 3 1c",
  "2 a 5 16 2 2 15 3 1 5 1 1 3 0 5 5b j x b 7p 2 5 2 11 2 5 2 7 1 0 1 0 1 0 1 u 2 1g 1 6 1 0 3",
  "2 1 6 3 3 2 5 4 c 5 2 1 6 37 1 2 5 5 a 6 c 2t 0 4 0 2 9 1 0 3 4 6 0 1 0 1 0 1 3 1 a 2 3 5 4",
  "4 0 1 1l k6 1n q 21 hi t vg 6c 6 3 3 1 9 0 2 11 1 0 5 0 2 1j 7 0 g m 9 6 1 6 1 6 1 6 1 6 1 6",
  "1 6 1 6 1 v 1b 0 d1 2 p 8 7 4 2 4 4 2d 6 2 1 2h 1 3 5 16 1 2l 3 3 a v 1c f w 9 u 7 1 e w 9",
  "13 e 8w 533 1s h3g 1v 19 2 7g 3 r k 1a 5 7 3 34 13 8 2 2u 2 29 k k 1 w 8 5 a 1f c 1v 1 0 a 9",
  "o 5 3 0 1 19 5 y d s 3 1e 1 b f a 6 u 1 1i 9 d 2 9 6 m 3 1w 1 0 1 0 o 2 2 f 2 3 b 5 2 5 2 5",
  "9 6 1 6 1 16 1 d 6 3e 5 9 6 8mb c m 4 1c 6is a5 2 2x 12 6 c 4 5 b 1 c 1 4 1 0 1 1 1 1 1 2z x",
  "a2 i 1r 2 1h 14 b 38 4 1 3q j 9 7 p 6 p b 2g 3 5 2 5 2 5 2 2 z b 1 p 1 i 1 1 1 e 2 d y 3e c",
  "18 c 1k h 1 6s s 3 1c g q 4 z 9 t 5 16 5 t 2 z 4 7 1 4 16 4d 2 9 6 z 4 z 4 13 8 1f c a 1 e 1",
  "6 1 1 1 a 1 e 1 6 1 1 3 1f c 8m 9 l a 7 o 5 1 15 1 8 1x 5 2 0 1 17 1 1 3 0 2 m 2 u 2 11 8 8",
  "1c i 1 1 5 w 4 p 6 p 12 1j 4 j 2 1d 1 1 5 7 1 2 1 s a 8 n u 1 v w 7 1 r 6 4 g 1h a l 2 q 5 p",
  "n 6 28 20 1j 1e d 1e 7 19 8 9 6 11 3 0 5 m 62 u 1 15 1 1 3 1 g 5 1e 2 3 13 8 l b 3 r h 1a r",
  "k m 9 1x c t 1 4 a 1k 9 0 d o 7 9 6 1e 3 9 4 3 8 y 3 0 9 1r 1 3 9 c 1 0 4 j b h 1 x 2 0 6 3",
  "1q 6 1 0 1 3 1 e 1 9 7 1k 7 9 6 3 1 7 2 1 2 l 1 6 1 1 1 4 3 7 2 1 2 1 3 0 6 0 5 6 s 9 1 0 2",
  "0 1 11 1 9 1 0 2 0 1 3 1 1 3 0 1 0 18 1t 1 2 1 3 5 9 5 2 u 1t 2 1 1 0 8 9 4m 1h 2 6 p 5 y 1q",
  "1 0 3 0 b 9 12 1h 2 0 7 9 6 j s q 2 d 5 b 4 6 55 1k 2v 2a c 7 2 0 2 7 1 1 1 t 1 1 2 1 2 3 d",
  "9 1y 7 2 19 2 5 1 0 1 1 r 1e 2 9 h 1z 5 0 i 20 2v 7 2g w f 9 6 8 1 18 1 6 1 0 f s 5 t 2 l 1",
  "d 21 6 1 1 1 17 3 0 1 1 1 2 1 0 2 1 8 9 6 5 1 1 1 10 1 1 1 3 1 0 7 9 6 17 4 9 6u m 9 g 1 14",
  "3 2 f 9 2e 0 f k 17 pl 2u 32 h 5f 218 2o f tr h 5 p 32y 5 g6 5a1 1a 1 9 1c6 fs 7 u 1 9 6 26",
  "1 9 6 t i 1b g 3 c 9 1 6 1 k 5 i c0 18 3 9 5i 2e 9 o 2 o 18 22 4 1k 7 g 1s 1 1 0 c 6 9 5p1",
  "15 v 2p 36 6pp 3 1 6 1 1 1 82 f 0 t 2 2 0 e 3 8 az 1s4 2y 5 c 3 8 7 9 4 0 381 9 152 j c j 30",
  "o 3r 2c 1 1y 1 1 2 0 2 1 2 3 1 b 1 0 1 6 1 1s 1 3 2 7 1 6 1 r 1 3 1 4 1 0 3 6 1 9f 2 o 1 o 1",
  "u 1 o 1 u 1 o 1 u 1 o 1 u 1 o 1 7 2 1d 1ds u 6 5 5x 6 1 g 2 6 1 1 1 4 5 1p x 0 34 18 a 6 2 9",
  "4 0 8x t i 17 4 9 d2 r 4 9 5y t 2 a 5h u 1 l 8 1 68 6 1 3 1 1 1 e 1 5g 2 8 1c 1v 3 0 3 0 4 9",
  "lz 1m 1 2 1 3 24 18 1 e 5e 3 1 q 1 1 1 0 2 0 1 9 1 3 1 0 1 0 6 0 4 0 1 0 1 0 1 2 1 1 1 0 2 0",
  "1 0 1 0 1 0 1 0 1 1 1 0 2 3 1 6 1 3 1 3 1 0 1 9 1 g 5 2 1 4 1 g g4 c z p 6 p 6 p 21y 9 sm",
  "wyn w 3dp 2 4gd 2 5rk f h9 1wi f1 15u 3t6 5 6jt"]

def isAlphanumeric (c : Char) : Bool := alphanumericRanges.contains c

end Rulebook.Text
