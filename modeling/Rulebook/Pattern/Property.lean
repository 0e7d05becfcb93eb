import Rulebook.Pattern.Binary
import Rulebook.Text.Blank
import Rulebook.Text.Lowercase

namespace Rulebook.Pattern

open Text

def wordRanges : Ranges := .ofLines [
  "1c 9 7 p 4 0 1 p 1b 0 a 0 4 0 5 m 1 u 1 cp 4 b e 4 7 0 1 0 h 38 1 1 2 3 1 0 6 0 1 2 1 0 1 j",
  "1 2a 1 3u 1 4s 1 11 2 0 6 14 8 18 1 0 1 1 1 1 1 0 8 q 4 3 t a 5 21 4 2t 1 7 2 9 1 i 2 0 g 1m",
  "2 2s e 1h 4 0 2 0 2 19 i r 4 a 5 n 1 6 7 22 1 3k 2 9 1 i 1 7 2 1 2 l 1 6 1 0 3 3 2 8 2 1 2 3",
  "8 0 4 1 1 4 2 b a 0 1 0 2 2 1 5 4 1 2 l 1 6 1 1 1 1 1 1 2 0 1 4 4 1 2 2 3 0 7 3 1 0 7 f b 2",
  "1 8 1 2 1 l 1 6 1 1 1 4 2 9 1 2 1 2 2 0 f 3 2 9 9 6 1 2 1 7 2 1 2 l 1 6 1 1 1 4 2 8 2 1 2 2",
  "7 2 4 1 1 4 2 9 1 0 g 1 1 5 3 2 1 3 3 1 1 0 1 1 3 1 3 2 3 b 4 4 3 2 1 3 2 0 6 0 e 9 g c 1 2",
  "1 m 1 f 2 8 1 2 1 3 7 1 1 2 1 1 2 3 2 9 g 3 1 7 1 2 1 m 1 9 1 4 2 8 1 2 1 3 7 1 5 2 1 3 2 9",
  "1 2 c c 1 2 1 1e 1 2 1 4 5 3 7 4 2 9 a 5 1 2 1 h 3 n 1 8 1 0 2 6 3 0 4 5 1 0 1 7 6 9 2 1 d",
  "1l 5 e 1 9 13 1 1 0 1 4 1 n 1 0 1 m 2 4 1 0 1 6 1 9 2 3 w 0 n 1 6 9 b 0 1 0 1 0 4 9 1 z 4 j",
  "1 h 1 z 9 0 1l 21 6 25 2 11 1 0 5 0 2 16 1 98 1 3 2 6 1 0 1 3 2 14 1 3 2 w 1 3 2 6 1 0 1 3 2",
  "e 1 1k 1 3 2 1u 2 2 w f g 2d 2 5 3 h7 2 g 1 p 5 22 3 a 7 l 9 l b j c c 1 2 1 1 c 2b 3 0 4 1",
  "2 9 x 2 1 a 6 2g 7 16 5 1x a u 1 b 4 b a 13 2 4 b 17 4 p 6 9 12 r 4 1q 1 s 2 a 6 9 d 0 8 19",
  "2 b k 24 3 9 h 8 c 37 c 1j 8 9 3 1c 2 a 5 16 2 2 g 2 1 12 5 et 2 5 2 11 2 5 2 7 1 0 1 0 1 0",
  "1 u 2 1g 1 6 1 0 3 2 1 6 3 3 2 5 4 c 5 2 1 6 f 1 1d 1 j 0 s 0 d 0 g c 1f w h 0 4 0 2 9 1 0 3",
  "4 6 0 1 0 1 0 1 3 1 a 2 3 5 4 4 0 h 14 ml 1f 1ee 6c 6 8 c 11 1 0 5 0 2 1j 7 0 f n 9 6 1 6 1",
  "6 1 6 1 6 1 6 1 6 1 6 1 v 1b 0 d1 2 p e 1 4 2 4 4 2d 2 1 2 2 1 2h 1 3 5 16 1 2l h v 1c f e8",
  "533 1s h3g 1v 19 2 7g 3 r k 1e 1 9 1 36 11 8 2 2u 2 29 k 1i 4 0 j 1f c 1x a 9 6 n 3 0 1 1c 2",
  "z c s 3 1s e a 6 u 1 1i 9 d 2 9 6 m 3 20 o 2 2 f 2 4 a 5 2 5 2 5 9 6 1 6 1 16 1 d 6 3e 1 1 2",
  "9 6 8mb c m 4 1c 6is a5 2 2x 12 6 c 4 5 b 1 c 1 4 1 0 1 1 1 1 1 2z x a2 i 1r 2 1h 14 b 4 f g",
  "f 3 1 o 2 w 4 1 3q j 9 7 p 4 0 1 p b 2g 3 5 2 5 2 5 2 2 z b 1 p 1 i 1 1 1 e 2 d y 3e 1x 1g",
  "3s 0 3m s 3 1c f 0 v v d t 5 16 5 t 2 z 4 7 1 4 16 4d 2 9 6 z 4 z 4 13 8 1f c a 1 e 1 6 1 1",
  "1 a 1 e 1 6 1 1 3 1f c 8m 9 l a 7 o 5 1 15 1 8 1x 5 2 0 1 17 1 1 3 0 2 m a m 9 u 1t i 1 1 a",
  "l a p 6 p 12 1j 6 1 1s 3 1 1 5 7 1 2 1 s 2 2 4 0 w s 3 s z 7 1 t p 1h a l a i d h 32 20 1j",
  "1e d 1e d 13 8 9 6 11 3 4 1 m 6y 15 1 1 3 1 g 5 1e y a 0 8 w v l 16 k r m 9 1y v f 9 1n 7 0",
  "d o 7 9 6 1g 1 9 4 3 8 z 2 0 9 1w 4 3 1 c 1 0 z h 1 10 6 3 1q 6 1 0 1 3 1 e 1 9 7 1m 5 9 6 3",
  "1 7 2 1 2 l 1 6 1 1 1 4 1 9 2 1 2 2 2 0 6 0 5 6 2 6 3 4 b 9 1 0 2 0 1 11 1 9 1 0 2 0 1 3 1 7",
  "d 1 t 22 5 9 4 3 u 1x 1 0 8 9 4m 1h 2 8 n 5 y 1s 3 0 b 9 12 1k 7 9 6 j s q 2 e 4 9 6 6 55 1m",
  "2t 21 l 7 2 0 2 7 1 1 1 t 1 1 2 8 c 9 1y 7 2 19 2 7 1 1 r 1q 8 0 8 21 3 0 i 20 2v 7 2g w f 9",
  "6 8 1 18 1 8 f 9 o t 2 l 1 d 21 6 1 1 1 17 3 0 1 1 1 8 8 9 6 5 1 1 1 10 1 1 1 5 7 9 6 17 4 9",
  "6u m 9 g 1 14 3 4 d a 2d 0 27 pl 2u 32 h 5f 218 2o f tr g l a 32y 5 g6 5a1 1l 1c6 fs 7 u 1 9",
  "6 26 1 9 6 t 2 4 b 1i 9 3 c 9 9 k 5 i c0 18 3 9 5i 1r w o 2 o 18 22 4 1k 7 g 1s 1 1 1 b 6 9",
  "5p1 15 v 2p 36 6pp 3 1 6 1 1 1 82 f 0 t 2 2 0 e 3 8 az 1s4 2y 5 c 3 8 7 9 3 1 381 9 ee 19 2",
  "m f2 4 3 5 8 7 2 6 u 3 44 2 cb 2c 1 1y 1 1 2 0 2 1 2 3 1 b 1 0 1 6 1 1s 1 3 2 7 1 6 1 r 1 3",
  "1 4 1 0 3 6 1 9f 2 o 1 o 1 u 1 o 1 u 1 o 1 u 1 o 1 u 1 o 1 7 2 1d e8 1i 4 1d 8 0 e 0 m 4 1 e",
  "uo u 6 5 5x 6 1 g 2 6 1 1 1 4 5 1p x 0 34 18 3 d 2 9 4 0 8x u h 1l d2 15 5y 16 5h u 1 l 8 1",
  "68 6 1 3 1 1 1 e 1 5g b 6 15 23 4 9 x2 3 1 q 1 1 1 0 2 0 1 9 1 3 1 0 1 0 6 0 4 0 1 0 1 0 1 2",
  "1 1 1 0 2 0 1 0 1 0 1 0 1 0 1 1 1 0 2 3 1 6 1 3 1 3 1 0 1 9 1 g 5 2 1 4 1 g hg p 6 p 6 p 21y",
  "9 sm wyn w 3dp 2 4gd 2 5rk f h9 1wi f1 15u 3t6 5 6jt f62u 6n"]

def alphabeticRanges : Ranges := .ofLines [
  "1t p 6 p 1b 0 a 0 4 0 5 m 1 u 1 cp 4 b e 4 7 0 1 0 2e 0 t h 1 1 2 3 1 0 6 0 1 2 1 0 1 j 1 2a",
  "1 3u 8 4l 1 11 2 0 6 14 13 d 1 0 1 1 1 1 1 0 8 q 4 3 t a 5 1j 1 6 e 2t 1 7 4 7 4 2 a 2 2 0 g",
  "1b d 2s o w 9 1 4 0 5 n 2 i j o 7 a 5 n 1 6 7 0 8 15 a b 3 6 6 23 1 f 1 2 4 e d i 1 7 2 1 2",
  "l 1 6 1 0 3 3 3 7 2 1 2 1 1 0 8 0 4 1 1 4 c 1 a 0 4 2 1 5 4 1 2 l 1 6 1 1 1 1 1 1 4 4 4 1 2",
  "1 4 0 7 3 1 0 h 5 b 2 1 8 1 2 1 l 1 6 1 1 1 4 3 8 1 2 1 1 3 0 f 3 l 3 4 2 1 7 2 1 2 l 1 6 1",
  "1 1 4 3 7 2 1 2 1 9 1 4 1 1 4 d 0 g 1 1 5 3 2 1 3 3 1 1 0 1 1 3 1 3 2 3 b 4 4 3 2 1 2 3 0 6",
  "0 14 c 1 2 1 m 1 f 3 7 1 2 1 2 8 1 1 2 1 1 2 3 s 3 1 7 1 2 1 m 1 9 1 4 3 7 1 2 1 2 8 1 5 2 1",
  "3 d 2 c c 1 2 1 14 2 7 1 2 1 2 1 0 5 3 7 4 m 5 1 2 1 h 3 n 1 8 1 0 2 6 8 5 1 0 1 7 i 1 d 1l",
  "5 6 6 0 1f 1 1 0 1 4 1 n 1 0 1 i 1 2 2 4 1 0 6 0 e 3 w 0 1r 7 1 z 4 i 4 f 1 z 1v 1i 1 0 2 4",
  "g 1r a 3 2 11 1 0 5 0 2 16 1 98 1 3 2 6 1 0 1 3 2 14 1 3 2 w 1 3 2 6 1 0 1 3 2 e 1 1k 1 3 2",
  "1u 11 f g 2d 2 5 3 h7 2 g 1 p 5 22 3 a 7 j b k c j c c 1 2 1 1 c 1f 2 i e 0 4 0 1v 2g 7 16 5",
  "1x a u 1 b 4 8 n t 2 4 b 17 4 p 1i r 4 1q 2 j 1e 0 n 1 b 2 1d 1f 1 e 1 7 1f 15 2 3 a 17 1 a",
  "e 1i m 2 a z 2 a 5 16 2 2 15 3 1 5 1 1 3 0 5 5b j x b 7p 2 5 2 11 2 5 2 7 1 0 1 0 1 0 1 u 2",
  "1g 1 6 1 0 3 2 1 6 3 3 2 5 4 c 5 2 1 6 38 0 d 0 g c 2t 0 4 0 2 9 1 0 3 4 6 0 1 0 1 0 1 3 1 a",
  "2 3 5 4 4 0 h 14 ml 1f 1ee 6c 6 3 3 1 c 11 1 0 5 0 2 1j 7 0 g m 9 6 1 6 1 6 1 6 1 6 1 6 1 6",
  "1 6 1 v 1b 0 d1 2 p 8 7 4 2 4 4 2d 6 2 1 2h 1 3 5 16 1 2l h v 1c f e8 533 1s h3g 1v 19 2 7g",
  "3 f a 1 k 1a 5 7 3 34 13 8 2 2u 2 29 k k 1 w o 1f c 1v 1 0 18 5 3 0 1 2 a w 5 y d s 3 1e 1 b",
  "f 0 g f a 4 1 1i 9 d i m 3 1w 1 0 1 0 o 2 2 f 2 3 b 5 2 5 2 5 9 6 1 6 1 16 1 d 6 3e l 8mb c",
  "m 4 1c 6is a5 2 2x 12 6 c 4 5 b 1 c 1 4 1 0 1 1 1 1 1 2z x a2 i 1r 2 1h 14 b 38 4 1 3q 10 p",
  "6 p b 2g 3 5 2 5 2 5 2 2 z b 1 p 1 i 1 1 1 e 2 d y 3e 1x 1g 7f s 3 1c 1b v d t 5 16 5 t 2 z",
  "4 7 1 4 16 4d i z 4 z 4 13 8 1f c a 1 e 1 6 1 1 1 a 1 e 1 6 1 1 3 1f c 8m 9 l a 7 o 5 1 15 1",
  "8 1x 5 2 0 1 17 1 1 3 0 2 m a m 9 u 1t i 1 1 a l a p 6 p 12 1j 6 1 1s 3 1 1 5 7 1 2 1 s 16 s",
  "3 s z 7 1 r r 1h a l a i d h 32 20 1j 1e d 1e d 13 y r 3 0 5 m 6y 15 1 1 3 1 g 5 1e 2 3 s a",
  "0 8 l 16 h 1a k r m 9 1x 17 4 a 1k 9 0 d o n 1e h 3 8 y 3 0 9 1r 1 3 9 1 a 0 1 0 z h 1 x 2 0",
  "6 3 1q 6 1 0 1 3 1 e 1 9 7 1k n 3 1 7 2 1 2 l 1 6 1 1 1 4 3 7 2 1 2 1 3 0 6 0 5 6 s 9 1 0 2",
  "0 1 11 1 9 1 0 2 0 1 3 1 1 3 0 1 0 18 1t 1 2 1 3 k 2 u 1t 2 1 1 0 54 1h 2 6 p 5 y 1q 1 0 3 0",
  "1n 1h 2 0 1z q 2 d l 6 55 1k 2v 1r v 7 2 0 2 7 1 1 1 t 1 1 2 1 2 3 2l 7 2 19 2 5 1 0 1 1 r",
  "1e 2 9 h 1z 5 0 i 20 2v 7 2g w v 8 1 18 1 6 1 0 1d t 2 l 1 d 21 6 1 1 1 17 3 0 1 1 1 2 1 0 2",
  "1 o 5 1 1 1 10 1 1 1 3 1 0 n 17 78 m 9 g 1 14 3 2 33 0 27 pl 2u 32 h 5f 218 2o f tr h 5 p",
  "32y 5 g6 5a1 1a 1ch fs 7 u h 26 h t i 1b g 3 v k 5 i c0 18 5v 1r w o 2 o 18 22 4 1k 7 g 1s 1",
  "1 0 c 6 9 5p1 15 v 2p 36 6pp 3 1 6 1 1 1 82 f 0 t 2 2 0 e 3 8 az 1s4 2y 5 c 3 8 7 9 4 0 4m9",
  "2c 1 1y 1 1 2 0 2 1 2 3 1 b 1 0 1 6 1 1s 1 3 2 7 1 6 1 r 1 3 1 4 1 0 3 6 1 9f 2 o 1 o 1 u 1",
  "o 1 u 1 o 1 u 1 o 1 u 1 o 1 7 1f8 u 6 5 5x 6 1 g 2 6 1 1 1 4 5 1p x 0 34 18 a 6 g 0 8x t i",
  "17 dg r 6c t 2 0 5r u 1 l 8 1 68 6 1 3 1 1 1 e 1 5g 1n 1v 3 0 3 0 xg 3 1 q 1 1 1 0 2 0 1 9 1",
  "3 1 0 1 0 6 0 4 0 1 0 1 0 1 2 1 1 1 0 2 0 1 0 1 0 1 0 1 0 1 1 1 0 2 3 1 6 1 3 1 3 1 0 1 9 1",
  "g 5 2 1 4 1 g hg p 6 p 6 p 2uu wyn w 3dp 2 4gd 2 5rk f h9 1wi f1 15u 3t6 5 6jt"]

def lowercaseRanges : Ranges := .ofLines [
  "2p p 1b 0 a 0 4 0 10 n 1 7 1 0 1 0 1 0 1 0 1 0 1 0 1 0 1 0 1 0 1 0 1 0 1 0 1 0 1 0 1 0 1 0 1",
  "0 1 0 1 0 1 0 1 0 1 0 1 0 1 0 1 0 1 0 1 0 1 1 1 0 1 0 1 0 1 0 1 0 1 0 1 0 1 1 1 0 1 0 1 0 1",
  "0 1 0 1 0 1 0 1 0 1 0 1 0 1 0 1 0 1 0 1 0 1 0 1 0 1 0 1 0 1 0 1 0 1 0 1 0 1 0 2 0 1 0 1 2 2",
  "0 1 0 2 0 3 1 4 0 2 0 3 2 2 0 2 0 1 0 1 0 2 0 1 1 1 0 2 0 3 0 1 0 2 1 2 2 6 0 2 0 2 0 1 0 1",
  "0 1 0 1 0 1 0 1 0 1 0 1 1 1 0 1 0 1 0 1 0 1 0 1 0 1 0 1 0 1 1 2 0 1 0 3 0 1 0 1 0 1 0 1 0 1",
  "0 1 0 1 0 1 0 1 0 1 0 1 0 1 0 1 0 1 0 1 0 1 0 1 0 1 0 1 0 1 0 1 0 1 0 1 0 1 0 1 0 1 0 1 0 1",
  "0 1 6 2 0 2 1 1 0 4 0 1 0 1 0 1 0 1 1w 2 y 7 1 u 4 2o 0 17 0 1 0 3 0 2 3 i 0 r y 1 1 3 2 1 0",
  "1 0 1 0 1 0 1 0 1 0 1 0 1 0 1 0 1 0 1 0 1 4 1 0 2 0 2 1 1f 1b 1 0 1 0 1 0 1 0 1 0 1 0 1 0 1",
  "0 1 0 1 0 1 0 1 0 1 0 1 0 1 0 1 0 1 0 9 0 1 0 1 0 1 0 1 0 1 0 1 0 1 0 1 0 1 0 1 0 1 0 1 0 1",
  "0 1 0 1 0 1 0 1 0 1 0 1 0 1 0 1 0 1 0 1 0 1 0 1 0 1 0 2 0 1 0 1 0 1 0 1 0 1 0 1 1 1 0 1 0 1",
  "0 1 0 1 0 1 0 1 0 1 0 1 0 1 0 1 0 1 0 1 0 1 0 1 0 1 0 1 0 1 0 1 0 1 0 1 0 1 0 1 0 1 0 1 0 1",
  "0 1 0 1 0 1 0 1 0 1 0 1 0 1 0 1 0 1 0 1 0 1 0 1 0 1 0 1 0 1 0 1 0 1 0 1 0 1 0 1 0 1 0 1 0 1c",
  "14 287 16 1 3 l4 5 1oi 8 1 0 39 5b 1t 0 1 0 1 0 1 0 1 0 1 0 1 0 1 0 1 0 1 0 1 0 1 0 1 0 1 0",
  "1 0 1 0 1 0 1 0 1 0 1 0 1 0 1 0 1 0 1 0 1 0 1 0 1 0 1 0 1 0 1 0 1 0 1 0 1 0 1 0 1 0 1 0 1 0",
  "1 0 1 0 1 0 1 0 1 0 1 0 1 0 1 0 1 0 1 0 1 0 1 0 1 0 1 0 1 0 1 0 1 0 1 0 1 0 1 0 1 0 1 0 1 0",
  "1 0 1 0 1 0 1 0 1 0 1 0 1 0 1 0 1 0 1 0 1 0 1 0 1 0 1 0 1 8 1 0 1 0 1 0 1 0 1 0 1 0 1 0 1 0",
  "1 0 1 0 1 0 1 0 1 0 1 0 1 0 1 0 1 0 1 0 1 0 1 0 1 0 1 0 1 0 1 0 1 0 1 0 1 0 1 0 1 0 1 0 1 0",
  "1 0 1 0 1 0 1 0 1 0 1 0 1 0 1 0 1 0 1 0 1 0 1 0 1 0 1 0 1 0 1 0 1 0 1 8 8 5 a 7 8 7 8 5 a 7",
  "8 7 8 d 2 7 8 7 8 7 8 4 1 1 6 0 3 2 1 1 8 3 2 1 8 7 a 2 1 1 3d 0 d 0 g c 31 0 3 1 3 0 r 0 4",
  "0 4 0 2 1 8 3 4 0 x f 4 0 nf p 1fq 1b 1 0 3 1 1 0 1 0 1 0 4 0 1 1 1 7 3 0 1 0 1 0 1 0 1 0 1",
  "0 1 0 1 0 1 0 1 0 1 0 1 0 1 0 1 0 1 0 1 0 1 0 1 0 1 0 1 0 1 0 1 0 1 0 1 0 1 0 1 0 1 0 1 0 1",
  "0 1 0 1 0 1 0 1 0 1 0 1 0 1 0 1 0 1 0 1 0 1 0 1 0 1 0 1 0 1 0 1 0 1 0 1 0 1 0 1 0 1 1 7 0 1",
  "0 4 0 c 11 1 0 5 0 nwz 0 1 0 1 0 1 0 1 0 1 0 1 0 1 0 1 0 1 0 1 0 1 0 1 0 1 0 1 0 1 0 1 0 1 0",
  "1 0 1 0 1 0 1 0 1 0 j 0 1 0 1 0 1 0 1 0 1 0 1 0 1 0 1 0 1 0 1 0 1 0 1 0 1 2 3p 0 1 0 1 0 1 0",
  "1 0 1 0 1 2 1 0 1 0 1 0 1 0 1 0 1 0 1 0 1 0 1 0 1 0 1 0 1 0 1 0 1 0 1 0 1 0 1 0 1 0 1 0 1 0",
  "1 0 1 0 1 0 1 0 1 0 1 0 1 0 1 0 1 0 1 0 1 9 1 0 1 0 2 0 1 0 1 0 1 0 1 0 4 0 1 0 2 0 1 2 1 0",
  "1 0 1 0 1 0 1 0 1 0 1 0 1 0 1 0 1 0 5 0 5 0 1 0 1 0 1 0 1 0 1 0 1 0 1 0 4 0 1 0 2 0 1 0 1 0",
  "1 0 1 0 1 0 1 0 1 0 l 3 1 0 1 2 mt 16 1 d 6 27 fnk 6 c 4 tl p y5 13 3s z 4b a 1 e 1 6 1 1 cj",
  "0 2 2 1 15 1 8 zp 1e 3h l 27u v gw0 v 1n o k06 p q 6 1 h q p q 3 1 0 1 6 1 a q p q p q p q p",
  "q p q p q p q p q r s o 1 5 q o 1 5 q o 1 5 q o 1 5 q o 1 5 1 0 1f8 9 1 j 6 5 79 1p 1pw x"]

def uppercaseRanges : Ranges := .ofLines [
  "1t p 2t m 1 6 x 0 1 0 1 0 1 0 1 0 1 0 1 0 1 0 1 0 1 0 1 0 1 0 1 0 1 0 1 0 1 0 1 0 1 0 1 0 1",
  "0 1 0 1 0 1 0 1 0 1 0 1 0 1 0 1 0 2 0 1 0 1 0 1 0 1 0 1 0 1 0 1 0 2 0 1 0 1 0 1 0 1 0 1 0 1",
  "0 1 0 1 0 1 0 1 0 1 0 1 0 1 0 1 0 1 0 1 0 1 0 1 0 1 0 1 0 1 0 1 0 1 1 1 0 1 0 3 1 1 0 1 1 1",
  "2 2 3 1 1 1 2 3 1 1 1 1 0 1 0 1 1 1 0 2 0 1 1 1 2 1 0 1 1 3 0 7 0 2 0 2 0 2 0 1 0 1 0 1 0 1",
  "0 1 0 1 0 1 0 2 0 1 0 1 0 1 0 1 0 1 0 1 0 1 0 1 0 2 0 2 0 1 2 1 0 1 0 1 0 1 0 1 0 1 0 1 0 1",
  "0 1 0 1 0 1 0 1 0 1 0 1 0 1 0 1 0 1 0 1 0 1 0 1 0 1 0 1 0 1 0 1 0 1 0 1 0 1 0 1 0 1 0 7 1 1",
  "1 2 0 1 3 1 0 1 0 1 0 1 0 81 0 1 0 3 0 8 0 6 0 1 2 1 0 1 1 1 g 1 8 z 0 2 2 3 0 1 0 1 0 1 0 1",
  "0 1 0 1 0 1 0 1 0 1 0 1 0 1 0 5 0 2 0 1 1 2 1e 1c 0 1 0 1 0 1 0 1 0 1 0 1 0 1 0 1 0 1 0 1 0",
  "1 0 1 0 1 0 1 0 1 0 1 0 9 0 1 0 1 0 1 0 1 0 1 0 1 0 1 0 1 0 1 0 1 0 1 0 1 0 1 0 1 0 1 0 1 0",
  "1 0 1 0 1 0 1 0 1 0 1 0 1 0 1 0 1 0 1 0 1 1 1 0 1 0 1 0 1 0 1 0 1 0 2 0 1 0 1 0 1 0 1 0 1 0",
  "1 0 1 0 1 0 1 0 1 0 1 0 1 0 1 0 1 0 1 0 1 0 1 0 1 0 1 0 1 0 1 0 1 0 1 0 1 0 1 0 1 0 1 0 1 0",
  "1 0 1 0 1 0 1 0 1 0 1 0 1 0 1 0 1 0 1 0 1 0 1 0 1 0 1 0 1 0 1 0 1 0 1 0 1 0 2 11 289 11 1 0",
  "5 0 k2 2d 1oz 0 6 16 2 2 8w 0 1 0 1 0 1 0 1 0 1 0 1 0 1 0 1 0 1 0 1 0 1 0 1 0 1 0 1 0 1 0 1",
  "0 1 0 1 0 1 0 1 0 1 0 1 0 1 0 1 0 1 0 1 0 1 0 1 0 1 0 1 0 1 0 1 0 1 0 1 0 1 0 1 0 1 0 1 0 1",
  "0 1 0 1 0 1 0 1 0 1 0 1 0 1 0 1 0 1 0 1 0 1 0 1 0 1 0 1 0 1 0 1 0 1 0 1 0 1 0 1 0 1 0 1 0 1",
  "0 1 0 1 0 1 0 1 0 1 0 1 0 1 0 1 0 1 0 1 0 1 0 1 0 9 0 1 0 1 0 1 0 1 0 1 0 1 0 1 0 1 0 1 0 1",
  "0 1 0 1 0 1 0 1 0 1 0 1 0 1 0 1 0 1 0 1 0 1 0 1 0 1 0 1 0 1 0 1 0 1 0 1 0 1 0 1 0 1 0 1 0 1",
  "0 1 0 1 0 1 0 1 0 1 0 1 0 1 0 1 0 1 0 1 0 1 0 1 0 1 0 1 0 1 0 9 7 8 5 a 7 8 7 8 5 b 0 1 0 1",
  "0 1 0 8 7 20 3 c 3 c 3 c 4 b 3 7a 0 4 0 3 2 2 2 2 0 3 4 6 0 1 0 1 0 1 3 2 3 a 1 5 0 q f j 0",
  "mq p 1f4 1b 1c 0 1 2 2 0 1 0 1 0 1 3 1 0 2 0 8 2 1 0 1 0 1 0 1 0 1 0 1 0 1 0 1 0 1 0 1 0 1 0",
  "1 0 1 0 1 0 1 0 1 0 1 0 1 0 1 0 1 0 1 0 1 0 1 0 1 0 1 0 1 0 1 0 1 0 1 0 1 0 1 0 1 0 1 0 1 0",
  "1 0 1 0 1 0 1 0 1 0 1 0 1 0 1 0 1 0 1 0 1 0 1 0 1 0 1 0 1 0 8 0 1 0 4 0 nyl 0 1 0 1 0 1 0 1",
  "0 1 0 1 0 1 0 1 0 1 0 1 0 1 0 1 0 1 0 1 0 1 0 1 0 1 0 1 0 1 0 1 0 1 0 1 0 j 0 1 0 1 0 1 0 1",
  "0 1 0 1 0 1 0 1 0 1 0 1 0 1 0 1 0 1 0 3r 0 1 0 1 0 1 0 1 0 1 0 1 0 3 0 1 0 1 0 1 0 1 0 1 0 1",
  "0 1 0 1 0 1 0 1 0 1 0 1 0 1 0 1 0 1 0 1 0 1 0 1 0 1 0 1 0 1 0 1 0 1 0 1 0 1 0 1 0 1 0 1 0 1",
  "0 1 0 a 0 1 0 1 1 1 0 1 0 1 0 1 0 4 0 1 0 2 0 1 0 3 0 1 0 1 0 1 0 1 0 1 0 1 0 1 0 1 0 1 0 1",
  "4 1 4 1 0 1 0 1 0 1 0 1 0 1 0 1 0 1 3 1 0 1 1 1 0 1 0 1 0 1 0 1 0 1 0 1 0 1 0 o 0 h7v p xx",
  "13 3s z 4c a 1 e 1 6 1 1 1d6 1e 4d l 27u v gw0 v 1s o k07 p q p q p q 0 1 1 2 0 2 1 2 3 1 7",
  "q p q 1 1 3 2 7 1 6 r 1 1 3 1 4 1 0 3 6 r p q p q p q p q p q p u o x o x o x o x o x 0 3ed",
  "x 1la p 6 p 6 p"]

def emojiRanges : Ranges := .ofLines [
  "z 0 6 0 5 9 33 0 4 0 68d 0 c 0 60 0 m 0 2i 5 f 1 a7 1 c 0 4m 0 p a 4 2 5j 0 6f 1 a 0 9 0 1m",
  "3 1 4 9 0 2 0 2 1 2 0 4 0 2 0 1 1 2 0 3 0 3 1 8 2 5 0 1 0 5 b b 1 2 0 1 1 1 0 i 0 2 1 i 5 1",
  "0 1 1 3 1 5 0 2 1 4 1 b 1 5 1 2 0 5 1 1 0 1 1 k 1 5 5 1 3 2 0 4 0 2 0 2 5 1 0 2 0 1 0 1 0 6",
  "0 3 0 6 0 a 1 f 0 2 0 4 0 1 0 4 2 1 0 b 1 1c 2 9 0 e 0 e 0 ac 1 cv 2 j 1 1f 0 4 0 yi 0 c 0",
  "gp 0 1 0 2fze 0 5m 0 4g 1 c 1 e 0 2 9 23 p 1 1 n 0 k 0 2 8 l 1 4u x 2 33 2 1 1 2 2 2a 2 2 1",
  "7a 1 1q b 5 1 n 7 1 2 7 c 0 2 3 2 0 4 1 d 1 2 0 8 1 9 0 5 2 c 2 8 2 2 0 1 0 4 0 6 0 3 0 6 2d",
  "1c 1x 5 7 2 3 3 9 3 0 1 1 3 0 2 9 6b b 4 0 7v 1a 1 9 1 54 34 c 3 a 3 1k 1 0 4 f 2 b 4 9"]

def isWord (c : Char) : Bool :=
  if c.toNat < 0x80 then c.isAlphanum || c == '_' else wordRanges.contains c

def isDecimalDigit (c : Char) : Bool :=
  if c.toNat < 0x80 then c.isDigit else isCategory 8 c

def isAsciiWord (c : Char) : Bool := c.isAlphanum || c == '_'

def isAsciiSpace (c : Char) : Bool := ('\t' ≤ c && c ≤ '\r') || c == ' '

def asciiClass? (name : String) : Option (Char → Bool) :=
  match name with
  | "alnum" => some Char.isAlphanum
  | "alpha" => some Char.isAlpha
  | "ascii" => some fun c ↦ c.toNat < 0x80
  | "blank" => some fun c ↦ c == ' ' || c == '\t'
  | "cntrl" => some fun c ↦ c.toNat < 0x20 || c.toNat == 0x7f
  | "digit" => some Char.isDigit
  | "graph" => some fun c ↦ '!' ≤ c && c ≤ '~'
  | "lower" => some Char.isLower
  | "print" => some fun c ↦ ' ' ≤ c && c ≤ '~'
  | "punct" => some fun c ↦ '!' ≤ c && c ≤ '~' && !c.isAlphanum
  | "space" => some isAsciiSpace
  | "upper" => some Char.isUpper
  | "word" => some isAsciiWord
  | "xdigit" => some fun c ↦ c.isDigit || ('a' ≤ c && c ≤ 'f') || ('A' ≤ c && c ≤ 'F')
  | _ => none

/-- Case, blanks, hyphens and underscores in names do not count, nor does a leading `is`. -/
def plainName (name : String) : String :=
  let cs := name.toList.filterMap fun c ↦
    if c = ' ' || c = '-' || c = '_' then none else some c.toLower
  match cs with
  | 'i' :: 's' :: r => if r = ['c'] then "isc" else String.ofList r
  | _ => String.ofList cs

def binaryProperty? (name : String) : Option (Char → Bool) :=
  match name with
  | "any" => some fun _ ↦ true
  | "ascii" => some fun c ↦ c.toNat < 0x80
  | "assigned" => some fun c ↦ !isCategory 29 c
  | "alphabetic" | "alpha" => some alphabeticRanges.contains
  | "lowercase" | "lower" => some lowercaseRanges.contains
  | "uppercase" | "upper" => some uppercaseRanges.contains
  | "whitespace" | "wspace" | "space" => some isBlank
  | "emoji" => some emojiRanges.contains
  | "cased" => some casedRanges.contains
  | "caseignorable" | "ci" => some caseIgnorableRanges.contains
  | _ => (computedProperty? name).or (rangeProperty? name)

def property? (name : String) : Option (Char → Bool) :=
  let name := plainName name
  (binaryProperty? name).or ((category? name).or (script? name))

def valuedProperty? (property value : String) : Option (Char → Bool) :=
  let value := plainName value
  match plainName property with
  | "gc" | "generalcategory" => (binaryProperty? value |>.filter fun _ ↦
      ["any", "ascii", "assigned"].contains value).or (category? value)
  | "sc" | "script" | "scx" | "scriptextensions" => script? value
  | _ => none

end Rulebook.Pattern
