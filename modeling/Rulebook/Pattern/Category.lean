import Rulebook.Text.Ranges

namespace Rulebook.Pattern

open Text

def stretchesFrom (next : Nat) (acc : Array (Nat × Nat)) : List Nat → Array (Nat × Nat)
  | length :: what :: rest =>
    stretchesFrom (next + length) (acc.push (next + length - 1, what)) rest
  | _ => acc

structure Stretches where
  ends : Array (Nat × Nat)

def Stretches.ofLines (lines : List String) : Stretches :=
  ⟨stretchesFrom 0 #[] (lines.flatMap base36Numbers)⟩

def Stretches.at? (s : Stretches) (n : Nat) : Option Nat :=
  (s.ends[lowerBound (fun i ↦ (s.ends.getD i (0, 0)).1) n 0 s.ends.size]?).map Prod.snd

def categories : Stretches := .ofLines [
  "w p 1 m 3 h 1 j 3 h 1 d 1 e 1 h 1 i 1 h 1 c 2 h a 8 2 h 3 i 2 h q 0 1 d 1 h 1 e 1 k 1 b 1 k",
  "q 1 1 d 1 i 1 e 1 i x p 1 m 1 h 4 j 1 l 1 h 1 k 1 l 1 4 1 f 1 i 1 q 1 l 1 k 1 l 1 i 2 a 1 k",
  "1 1 2 h 1 k 1 a 1 4 1 g 3 a 1 h n 0 1 i 7 0 o 1 1 i 8 1 1 0 1 1 1 0 1 1 1 0 1 1 1 0 1 1 1 0",
  "1 1 1 0 1 1 1 0 1 1 1 0 1 1 1 0 1 1 1 0 1 1 1 0 1 1 1 0 1 1 1 0 1 1 1 0 1 1 1 0 1 1 1 0 1 1",
  "1 0 1 1 1 0 1 1 1 0 1 1 1 0 1 1 1 0 1 1 1 0 1 1 1 0 1 1 1 0 1 1 1 0 1 1 1 0 1 1 1 0 1 1 1 0",
  "2 1 1 0 1 1 1 0 1 1 1 0 1 1 1 0 1 1 1 0 1 1 1 0 1 1 1 0 1 1 1 0 2 1 1 0 1 1 1 0 1 1 1 0 1 1",
  "1 0 1 1 1 0 1 1 1 0 1 1 1 0 1 1 1 0 1 1 1 0 1 1 1 0 1 1 1 0 1 1 1 0 1 1 1 0 1 1 1 0 1 1 1 0",
  "1 1 1 0 1 1 1 0 1 1 1 0 1 1 1 0 1 1 1 0 1 1 1 0 1 1 1 0 1 1 1 0 1 1 2 0 1 1 1 0 1 1 1 0 3 1",
  "2 0 1 1 1 0 1 1 2 0 1 1 3 0 2 1 4 0 1 1 2 0 1 1 3 0 3 1 2 0 1 1 2 0 1 1 1 0 1 1 1 0 1 1 2 0",
  "1 1 1 0 2 1 1 0 1 1 2 0 1 1 3 0 1 1 1 0 1 1 2 0 2 1 1 4 1 0 3 1 4 4 1 0 1 2 1 1 1 0 1 2 1 1",
  "1 0 1 2 1 1 1 0 1 1 1 0 1 1 1 0 1 1 1 0 1 1 1 0 1 1 1 0 1 1 1 0 1 1 1 0 2 1 1 0 1 1 1 0 1 1",
  "1 0 1 1 1 0 1 1 1 0 1 1 1 0 1 1 1 0 1 1 1 0 1 1 1 0 2 1 1 0 1 2 1 1 1 0 1 1 3 0 1 1 1 0 1 1",
  "1 0 1 1 1 0 1 1 1 0 1 1 1 0 1 1 1 0 1 1 1 0 1 1 1 0 1 1 1 0 1 1 1 0 1 1 1 0 1 1 1 0 1 1 1 0",
  "1 1 1 0 1 1 1 0 1 1 1 0 1 1 1 0 1 1 1 0 1 1 1 0 1 1 1 0 1 1 1 0 1 1 1 0 1 1 1 0 1 1 1 0 1 1",
  "1 0 1 1 1 0 1 1 1 0 1 1 1 0 1 1 1 0 7 1 2 0 1 1 2 0 2 1 1 0 1 1 4 0 1 1 1 0 1 1 1 0 1 1 1 0",
  "1 1 1 0 1x 1 2 4 q 1 i 3 4 k c 3 e k 5 3 7 k 1 3 1 k 1 3 h k 34 5 1 0 1 1 1 0 1 1 1 3 1 k 1",
  "0 1 1 2 t 1 3 3 1 1 h 1 0 4 t 2 k 1 0 1 h 3 0 1 t 1 0 1 t 2 0 1 1 h 0 1 t 9 0 z 1 1 0 2 1 3",
  "0 3 1 1 0 1 1 1 0 1 1 1 0 1 1 1 0 1 1 1 0 1 1 1 0 1 1 1 0 1 1 1 0 1 1 1 0 1 1 1 0 1 1 1 0 1",
  "1 1 0 5 1 1 0 1 1 1 i 1 0 1 1 2 0 2 1 1f 0 1c 1 1 0 1 1 1 0 1 1 1 0 1 1 1 0 1 1 1 0 1 1 1 0",
  "1 1 1 0 1 1 1 0 1 1 1 0 1 1 1 0 1 1 1 0 1 1 1 0 1 1 1 0 1 1 1 0 1 1 1 0 1 1 1 0 1 1 1 0 1 1",
  "1 l 5 5 2 7 1 0 1 1 1 0 1 1 1 0 1 1 1 0 1 1 1 0 1 1 1 0 1 1 1 0 1 1 1 0 1 1 1 0 1 1 1 0 1 1",
  "1 0 1 1 1 0 1 1 1 0 1 1 1 0 1 1 1 0 1 1 1 0 1 1 1 0 1 1 1 0 1 1 1 0 1 1 1 0 1 1 1 0 1 1 1 0",
  "1 1 1 0 1 1 1 0 1 1 1 0 1 1 1 0 1 1 1 0 1 1 2 0 1 1 1 0 1 1 1 0 1 1 1 0 1 1 1 0 1 1 1 0 1 1",
  "1 0 2 1 1 0 1 1 1 0 1 1 1 0 1 1 1 0 1 1 1 0 1 1 1 0 1 1 1 0 1 1 1 0 1 1 1 0 1 1 1 0 1 1 1 0",
  "1 1 1 0 1 1 1 0 1 1 1 0 1 1 1 0 1 1 1 0 1 1 1 0 1 1 1 0 1 1 1 0 1 1 1 0 1 1 1 0 1 1 1 0 1 1",
  "1 0 1 1 1 0 1 1 1 0 1 1 1 0 1 1 1 0 1 1 1 0 1 1 1 0 1 1 1 0 1 1 1 0 1 1 1 0 1 1 1 0 1 1 1 0",
  "1 1 1 0 1 1 1 0 1 1 1 0 1 1 1 0 1 1 1 0 1 1 1 0 1 1 1 0 1 1 1 0 1 1 1 0 1 1 1 0 1 1 1 0 1 1",
  "1 0 1 1 1 0 1 1 1 0 1 1 1 t 12 0 2 t 1 3 6 h 15 1 1 h 1 c 2 t 2 l 1 j 1 t 19 5 1 c 1 5 1 h 2",
  "5 1 h 2 5 1 h 1 5 8 t r 4 4 t 4 4 2 h b t 6 q 3 i 2 h 1 j 2 h 2 l b 5 1 h 1 q 3 h w 4 1 3 a",
  "4 l 5 a 8 4 h 2 4 1 5 2r 4 1 h 1 4 7 5 1 q 1 l 6 5 2 3 2 5 1 l 4 5 2 4 a 8 3 4 2 l 1 4 e h 1",
  "t 1 q 1 4 1 5 u 4 r 5 2 t 2h 4 b 5 1 4 e t a 8 x 4 9 5 2 3 1 l 3 h 1 3 2 t 1 5 2 j m 4 4 5 1",
  "3 9 5 1 3 3 5 1 3 5 5 2 t f h 1 t p 4 3 5 2 t 1 h 1 t b 4 5 t o 4 1 k 7 4 2 q 5 t 9 5 15 4 1",
  "3 o 5 1 q w 5 1 6 1i 4 1 5 1 6 1 5 1 4 3 6 8 5 4 6 1 5 2 6 1 4 7 5 a 4 2 5 2 h a 8 1 h 1 3 f",
  "4 1 5 2 6 1 t 8 4 2 t 2 4 2 t m 4 1 t 7 4 1 t 1 4 3 t 4 4 2 t 1 5 1 4 3 6 4 5 2 t 2 6 2 t 2",
  "6 1 5 1 4 8 t 1 6 4 t 2 4 1 t 3 4 2 5 2 t a 8 2 4 2 j 6 a 1 l 1 j 1 4 1 h 1 5 2 t 2 5 1 6 1",
  "t 6 4 4 t 2 4 2 t m 4 1 t 7 4 1 t 2 4 1 t 2 4 1 t 2 4 2 t 1 5 1 t 3 6 2 5 4 t 2 5 2 t 3 5 3",
  "t 1 5 7 t 4 4 1 t 1 4 7 t a 8 2 5 3 4 1 5 1 h a t 2 5 1 6 1 t 9 4 1 t 3 4 1 t m 4 1 t 7 4 1",
  "t 2 4 1 t 5 4 2 t 1 5 1 4 3 6 5 5 1 t 2 5 1 6 1 t 2 6 1 5 2 t 1 4 f t 2 4 2 5 2 t a 8 1 h 1",
  "j 7 t 1 4 6 5 1 t 1 5 2 6 1 t 8 4 2 t 2 4 2 t m 4 1 t 7 4 1 t 2 4 1 t 5 4 2 t 1 5 1 4 1 6 1",
  "5 1 6 4 5 2 t 2 6 2 t 2 6 1 5 7 t 2 5 1 6 4 t 2 4 1 t 3 4 2 5 2 t a 8 1 l 1 4 6 a a t 1 5 1",
  "4 1 t 6 4 3 t 3 4 1 t 4 4 3 t 2 4 1 t 1 4 1 t 2 4 3 t 2 4 3 t 3 4 3 t c 4 4 t 2 6 1 5 2 6 3",
  "t 3 6 1 t 3 6 1 5 2 t 1 4 6 t 1 6 e t a 8 3 a 6 l 1 j 1 l 5 t 1 5 3 6 1 5 8 4 1 t 3 4 1 t n",
  "4 1 t g 4 2 t 1 5 1 4 3 5 4 6 1 t 3 5 1 t 4 5 7 t 2 5 1 t 3 4 1 t 2 4 2 t 2 4 2 5 2 t a 8 7",
  "t 1 h 7 a 1 l 1 4 1 5 2 6 1 h 8 4 1 t 3 4 1 t n 4 1 t a 4 1 t 5 4 2 t 1 5 1 4 1 6 1 5 5 6 1",
  "t 1 5 2 6 1 t 2 6 2 5 7 t 2 6 5 t 3 4 1 t 2 4 2 5 2 t a 8 1 t 2 4 1 6 c t 2 5 2 6 9 4 1 t 3",
  "4 1 t 15 4 2 5 1 4 3 6 4 5 1 t 3 6 1 t 3 6 1 5 1 4 1 l 4 t 3 4 1 6 7 a 3 4 2 5 2 t a 8 9 a 1",
  "l 6 4 1 t 1 5 2 6 1 t i 4 3 t o 4 1 t 9 4 1 t 1 4 2 t 7 4 3 t 1 5 4 t 3 6 3 5 1 t 1 5 1 t 8",
  "6 6 t a 8 2 t 2 6 1 h c t 1c 4 1 5 2 4 7 5 4 t 1 j 6 4 1 3 8 5 1 h a 8 2 h 11 t 2 4 1 t 1 4",
  "1 t 5 4 1 t o 4 1 t 1 4 1 t a 4 1 5 2 4 9 5 1 4 2 t 5 4 1 t 1 3 1 t 7 5 1 t a 8 2 t 4 4 w t",
  "1 4 3 l f h 1 l 1 h 3 l 2 5 6 l a 8 a a 1 l 1 5 1 l 1 5 1 l 1 5 1 d 1 e 1 d 1 e 2 6 8 4 1 t",
  "10 4 4 t e 5 1 6 5 5 1 h 2 5 5 4 b 5 1 t 10 5 1 t 8 l 1 5 6 l 1 t 2 l 5 h 4 l 2 h 11 t 17 4",
  "2 6 4 5 1 6 6 5 1 6 2 5 2 6 2 5 1 4 a 8 6 h 6 4 2 6 2 5 4 4 3 5 1 4 3 6 2 4 7 6 3 4 4 5 d 4",
  "1 5 2 6 2 5 6 6 1 5 1 4 1 6 a 8 3 6 1 5 2 l 12 0 1 t 1 0 5 t 1 0 2 t 17 1 1 h 1 3 3 1 95 4 1",
  "t 4 4 2 t 7 4 1 t 1 4 1 t 4 4 2 t 15 4 1 t 4 4 2 t x 4 1 t 4 4 2 t 7 4 1 t 1 4 1 t 4 4 2 t f",
  "4 1 t 1l 4 1 t 4 4 2 t 1v 4 2 t 3 5 9 h k a 3 t g 4 a l 6 t 2e 0 2 t 6 1 2 t 1 c h8 4 1 l 1",
  "h h 4 1 m q 4 1 d 1 e 3 t 23 4 3 h 3 9 8 4 7 t i 4 3 5 1 6 9 t j 4 2 5 1 6 2 h 9 t i 4 2 5 c",
  "t d 4 1 t 3 4 1 t 2 5 c t 1g 4 2 5 1 6 7 5 8 6 1 5 2 6 b 5 3 h 1 3 3 h 1 j 1 4 1 5 2 t a 8 6",
  "t a a 6 t 6 h 1 c 4 h 3 5 1 q 1 5 a 8 6 t z 4 1 3 1h 4 7 t 5 4 2 5 y 4 1 5 1 4 5 t 1y 4 a t",
  "v 4 1 t 3 5 4 6 2 5 3 6 4 t 2 6 1 5 6 6 3 5 4 t 1 l 3 t 2 h a 8 u 4 2 t 5 4 b t 18 4 4 t q 4",
  "6 t a 8 1 a 3 t y l n 4 2 5 2 6 1 5 2 t 2 h 1h 4 1 6 1 5 1 6 7 5 1 t 1 5 1 6 1 5 2 6 8 5 6 6",
  "a 5 2 t 1 5 a 8 6 t a 8 6 t 7 h 1 3 6 h 2 t e 5 1 7 v 5 2 t c 5 k t 4 5 1 6 1b 4 1 5 1 6 5 5",
  "1 6 1 5 5 6 1 5 2 6 8 4 1 t 2 h a 8 7 h a l 9 5 9 l 3 h 2 5 1 6 u 4 1 6 4 5 2 6 2 5 1 6 3 5",
  "2 4 a 8 18 4 1 5 1 6 2 5 3 6 1 5 1 6 3 5 2 6 8 t 4 h 10 4 8 6 8 5 2 6 2 5 3 t 5 h a 8 3 t 3",
  "4 a 8 u 4 6 3 2 h 9 1 1 0 1 1 5 t 17 0 2 t 3 0 8 h 8 t 3 5 1 h d 5 1 6 7 5 4 4 1 5 6 4 1 5 2",
  "4 1 6 2 5 1 4 5 t 18 1 1r 3 d 1 1 3 y 1 11 3 1s 5 1 0 1 1 1 0 1 1 1 0 1 1 1 0 1 1 1 0 1 1 1",
  "0 1 1 1 0 1 1 1 0 1 1 1 0 1 1 1 0 1 1 1 0 1 1 1 0 1 1 1 0 1 1 1 0 1 1 1 0 1 1 1 0 1 1 1 0 1",
  "1 1 0 1 1 1 0 1 1 1 0 1 1 1 0 1 1 1 0 1 1 1 0 1 1 1 0 1 1 1 0 1 1 1 0 1 1 1 0 1 1 1 0 1 1 1",
  "0 1 1 1 0 1 1 1 0 1 1 1 0 1 1 1 0 1 1 1 0 1 1 1 0 1 1 1 0 1 1 1 0 1 1 1 0 1 1 1 0 1 1 1 0 1",
  "1 1 0 1 1 1 0 1 1 1 0 1 1 1 0 1 1 1 0 1 1 1 0 1 1 1 0 1 1 1 0 1 1 1 0 1 1 1 0 1 1 1 0 1 1 1",
  "0 1 1 1 0 1 1 1 0 1 1 1 0 1 1 1 0 1 1 1 0 1 1 1 0 1 1 1 0 1 1 1 0 1 1 1 0 1 1 1 0 1 1 1 0 1",
  "1 1 0 1 1 1 0 1 1 1 0 1 1 1 0 1 1 1 0 1 1 1 0 1 1 1 0 1 1 1 0 1 1 1 0 1 1 1 0 1 1 1 0 1 1 1",
  "0 9 1 1 0 1 1 1 0 1 1 1 0 1 1 1 0 1 1 1 0 1 1 1 0 1 1 1 0 1 1 1 0 1 1 1 0 1 1 1 0 1 1 1 0 1",
  "1 1 0 1 1 1 0 1 1 1 0 1 1 1 0 1 1 1 0 1 1 1 0 1 1 1 0 1 1 1 0 1 1 1 0 1 1 1 0 1 1 1 0 1 1 1",
  "0 1 1 1 0 1 1 1 0 1 1 1 0 1 1 1 0 1 1 1 0 1 1 1 0 1 1 1 0 1 1 1 0 1 1 1 0 1 1 1 0 1 1 1 0 1",
  "1 1 0 1 1 1 0 1 1 1 0 1 1 1 0 1 1 1 0 1 1 1 0 1 1 1 0 1 1 1 0 1 1 1 0 1 1 1 0 1 1 1 0 1 1 1",
  "0 1 1 1 0 1 1 1 0 1 1 1 0 9 1 8 0 6 1 2 t 6 0 2 t 8 1 8 0 8 1 8 0 6 1 2 t 6 0 2 t 8 1 1 t 1",
  "0 1 t 1 0 1 t 1 0 1 t 1 0 8 1 8 0 e 1 2 t 8 1 8 2 8 1 8 2 8 1 8 2 5 1 1 t 2 1 4 0 1 2 1 k 1",
  "1 3 k 3 1 1 t 2 1 4 0 1 2 3 k 4 1 2 t 2 1 4 0 1 t 3 k 8 1 5 0 3 k 2 t 3 1 1 t 2 1 4 0 1 2 2",
  "k 1 t b m 5 q 6 c 2 h 1 f 1 g 1 d 2 f 1 g 1 d 1 f 8 h 1 n 1 o 5 q 1 m 9 h 1 f 1 g 4 h 2 b 3",
  "h 1 i 1 d 1 e b h 1 i 1 h 1 b a h 1 m 5 q 1 t a q 1 a 1 3 2 t 6 a 3 i 1 d 1 e 1 3 a a 3 i 1",
  "d 1 e 1 t d 3 3 t y j e t d 5 4 7 1 5 3 7 c 5 f t 2 l 1 0 4 l 1 0 2 l 1 1 3 0 2 1 3 0 1 1 1",
  "l 1 0 2 l 1 i 5 0 6 l 1 0 1 l 1 0 1 l 1 0 1 l 4 0 1 l 1 1 4 0 1 1 4 4 1 1 2 l 2 1 2 0 5 i 1",
  "0 4 1 1 l 1 i 2 l 1 1 1 l g a z 9 1 0 1 1 4 9 1 a 2 l 4 t 5 i 5 l 2 i 4 l 1 i 2 l 1 i 2 l 1",
  "i 7 l 1 i v l 2 i 2 l 1 i 1 l 1 i v l 7g i 8 l 1 d 1 e 1 d 1 e k l 2 i 7 l 1 d 1 e 29 l 1 i",
  "u l p i 14 l 6 i 20 l m t b l l t 1o a 26 l m a 53 l 1 i 9 l 1 i 1i l 8 i 33 l 1 i 6w l 1 d",
  "1 e 1 d 1 e 1 d 1 e 1 d 1 e 1 d 1 e 1 d 1 e 1 d 1 e u a 18 l 5 i 1 d 1 e v i 1 d 1 e 1 d 1 e",
  "1 d 1 e 1 d 1 e 1 d 1 e g i 74 l 3n i 1 d 1 e 1 d 1 e 1 d 1 e 1 d 1 e 1 d 1 e 1 d 1 e 1 d 1",
  "e 1 d 1 e 1 d 1 e 1 d 1 e 1 d 1 e 1r i 1 d 1 e 1 d 1 e w i 1 d 1 e 76 i 1c l l i 2 l 6 i 13",
  "l 2 t 3u l 1c 0 1c 1 1 0 1 1 3 0 2 1 1 0 1 1 1 0 1 1 1 0 1 1 4 0 1 1 1 0 2 1 1 0 6 1 2 3 3 0",
  "1 1 1 0 1 1 1 0 1 1 1 0 1 1 1 0 1 1 1 0 1 1 1 0 1 1 1 0 1 1 1 0 1 1 1 0 1 1 1 0 1 1 1 0 1 1",
  "1 0 1 1 1 0 1 1 1 0 1 1 1 0 1 1 1 0 1 1 1 0 1 1 1 0 1 1 1 0 1 1 1 0 1 1 1 0 1 1 1 0 1 1 1 0",
  "1 1 1 0 1 1 1 0 1 1 1 0 1 1 1 0 1 1 1 0 1 1 1 0 1 1 1 0 1 1 1 0 1 1 1 0 1 1 1 0 1 1 1 0 1 1",
  "1 0 1 1 1 0 1 1 1 0 1 1 1 0 1 1 1 0 1 1 1 0 1 1 1 0 1 1 1 0 1 1 1 0 1 1 1 0 1 1 1 0 1 1 1 0",
  "1 1 1 0 1 1 1 0 1 1 1 0 2 1 6 l 1 0 1 1 1 0 1 1 3 5 1 0 1 1 5 t 4 h 1 a 2 h 12 1 1 t 1 1 5 t",
  "1 1 2 t 1k 4 7 t 1 3 1 h e t 1 5 n 4 9 t 7 4 1 t 7 4 1 t 7 4 1 t 7 4 1 t 7 4 1 t 7 4 1 t 7 4",
  "1 t 7 4 1 t w 5 2 h 1 f 1 g 1 f 1 g 3 h 1 f 1 g 1 h 1 f 1 g 9 h 1 c 2 h 1 c 1 h 1 f 1 g 2 h",
  "1 f 1 g 1 d 1 e 1 d 1 e 1 d 1 e 1 d 1 e 5 h 1 3 a h 2 c 4 h 1 c 1 h 1 d d h 2 l 3 h 1 d 1 e",
  "1 d 1 e 1 d 1 e 1 d 1 e 1 c y t q l 1 t 2h l c t 5y l q t g l 1 m 3 h 1 l 1 3 1 4 1 9 1 d 1",
  "e 1 d 1 e 1 d 1 e 1 d 1 e 1 d 1 e 2 l 1 d 1 e 1 d 1 e 1 d 1 e 1 d 1 e 1 c 1 d 2 e 1 l 9 9 4",
  "5 2 6 1 c 5 3 2 l 3 9 1 3 1 4 1 h 2 l 1 t 2e 4 2 t 2 5 2 k 2 3 1 4 1 c 2i 4 1 h 3 3 1 4 5 t",
  "17 4 1 t 2m 4 1 t 2 l 4 a a l w 4 12 l 9 t 1 l g 4 v l 1 t a a u l 8 a 1 l f a w l a a 13 l",
  "f a 8w l 534 4 1s l g7p 4 1 3 vr 4 3 t 1j l 9 t 14 4 6 3 2 h 7g 4 1 3 3 h g 4 a 8 2 4 k t 1",
  "0 1 1 1 0 1 1 1 0 1 1 1 0 1 1 1 0 1 1 1 0 1 1 1 0 1 1 1 0 1 1 1 0 1 1 1 0 1 1 1 0 1 1 1 0 1",
  "1 1 0 1 1 1 0 1 1 1 0 1 1 1 0 1 1 1 0 1 1 1 0 1 1 1 0 1 1 1 0 1 1 1 0 1 1 1 0 1 1 1 0 1 1 1",
  "4 1 5 3 7 1 h a 5 1 h 1 3 1 0 1 1 1 0 1 1 1 0 1 1 1 0 1 1 1 0 1 1 1 0 1 1 1 0 1 1 1 0 1 1 1",
  "0 1 1 1 0 1 1 1 0 1 1 1 0 1 1 1 0 1 1 1 0 1 1 2 3 2 5 1y 4 a 9 2 5 6 h 8 t n k 9 3 2 k 1 0 1",
  "1 1 0 1 1 1 0 1 1 1 0 1 1 1 0 1 1 1 0 1 1 1 0 3 1 1 0 1 1 1 0 1 1 1 0 1 1 1 0 1 1 1 0 1 1 1",
  "0 1 1 1 0 1 1 1 0 1 1 1 0 1 1 1 0 1 1 1 0 1 1 1 0 1 1 1 0 1 1 1 0 1 1 1 0 1 1 1 0 1 1 1 0 1",
  "1 1 0 1 1 1 0 1 1 1 0 1 1 1 0 1 1 1 0 1 1 1 0 1 1 1 0 1 1 1 0 1 1 1 0 1 1 1 0 1 1 1 0 1 1 1",
  "0 1 1 1 0 1 1 1 0 1 1 1 3 8 1 1 0 1 1 1 0 1 1 2 0 1 1 1 0 1 1 1 0 1 1 1 0 1 1 1 0 1 1 1 3 2",
  "k 1 0 1 1 1 0 1 1 1 4 1 0 1 1 1 0 3 1 1 0 1 1 1 0 1 1 1 0 1 1 1 0 1 1 1 0 1 1 1 0 1 1 1 0 1",
  "1 1 0 1 1 1 0 1 1 1 0 1 1 5 0 1 1 5 0 1 1 1 0 1 1 1 0 1 1 1 0 1 1 1 0 1 1 1 0 1 1 1 0 1 1 1",
  "0 1 1 4 0 1 1 1 0 1 1 2 0 1 1 1 0 1 1 1 0 1 1 1 0 1 1 1 0 1 1 1 0 1 1 1 0 1 1 1 0 1 1 1 0 k",
  "t 4 3 1 0 1 1 1 4 2 3 1 1 7 4 1 5 3 4 1 5 4 4 1 5 n 4 2 6 2 5 1 6 4 l 1 5 3 t 6 a 2 l 1 j 1",
  "l 6 t 1g 4 4 h 8 t 2 6 1e 4 g 6 2 5 8 t 2 h a 8 6 t i 5 6 4 3 h 1 4 1 h 2 4 1 5 a 8 s 4 8 5",
  "2 h n 4 b 5 2 6 b t 1 h t 4 3 t 3 5 1 6 1b 4 1 5 2 6 4 5 2 6 2 5 3 6 d h 1 t 1 3 a 8 4 t 2 h",
  "5 4 1 5 1 3 9 4 a 8 5 4 1 t 15 4 6 5 2 6 2 5 2 6 2 5 9 t 3 4 1 5 8 4 1 5 1 6 2 t a 8 2 t 4 h",
  "g 4 1 3 6 4 3 l 1 4 1 6 1 5 1 6 1e 4 1 5 1 4 3 5 2 4 2 5 5 4 2 5 1 4 1 5 1 4 o t 2 4 1 3 2 h",
  "b 4 1 6 2 5 2 6 2 h 1 4 2 3 1 6 1 5 a t 6 4 2 t 6 4 2 t 6 4 9 t 7 4 1 t 7 4 1 t 17 1 1 k 4 3",
  "9 1 1 3 2 k 4 t 28 1 z 4 2 6 1 5 2 6 1 5 2 6 1 h 1 6 1 5 2 t a 8 6 t 8mc 4 c t n 4 4 t 1d 4",
  "4 t 1kw r 4xs s a6 4 2 t 2y 4 12 t 7 1 c t 5 1 5 t 1 4 1 5 a 4 1 i d 4 1 t 5 4 1 t 1 4 1 t 2",
  "4 1 t 2 4 1 t 30 4 h k g l a3 4 1 e 1 d g l 1s 4 2 l 1i 4 8 l w t c 4 1 j 3 l g 5 7 h 1 d 1",
  "e 1 h 6 t g 5 1 h 2 c 2 b 1 d 1 e 1 d 1 e 1 d 1 e 1 d 1 e 1 d 1 e 1 d 1 e 1 d 1 e 1 d 1 e 2",
  "h 1 d 1 e 4 h 3 b 3 h 1 t 4 h 1 c 1 d 1 e 1 d 1 e 1 d 1 e 3 h 1 i 1 c 3 i 1 t 1 h 1 j 2 h 4",
  "t 5 4 1 t 3r 4 2 t 1 q 1 t 3 h 1 j 3 h 1 d 1 e 1 h 1 i 1 h 1 c 2 h a 8 2 h 3 i 2 h q 0 1 d 1",
  "h 1 e 1 k 1 b 1 k q 1 1 d 1 i 1 e 1 i 1 d 1 e 1 h 1 d 1 e 2 h a 4 1 3 19 4 2 3 v 4 3 t 6 4 2",
  "t 6 4 2 t 6 4 2 t 3 4 3 t 2 j 1 i 1 k 1 l 2 j 1 t 1 l 4 i 2 l a t 3 q 2 l 2 t c 4 1 t q 4 1",
  "t j 4 1 t 2 4 1 t f 4 2 t e 4 y t 3f 4 5 t 3 h 4 t 19 a 3 t 9 l 1h 9 4 a h l 2 a 3 l 1 t d l",
  "3 t 1 l 1b t 19 l 1 5 3m t t 4 3 t 1d 4 f t 1 5 r a 4 t w 4 4 a 9 t k 4 1 9 8 4 1 9 5 t 12 4",
  "5 5 5 t u 4 1 t 1 h 10 4 4 t 8 4 1 h 5 9 16 t 14 0 14 1 26 4 2 t a 8 6 t 10 0 4 t 10 1 4 t",
  "14 4 8 t 1g 4 b t 1 h b 0 1 t f 0 1 t 7 0 1 t 2 0 1 t b 1 1 t f 1 1 t 7 1 1 t 2 1 3 t 1g 4 c",
  "t 8n 4 9 t m 4 a t 8 4 o t 6 3 1 t 16 3 1 t 9 3 1x t 6 4 2 t 1 4 1 t 18 4 1 t 2 4 3 t 1 4 2",
  "t n 4 1 t 1 h 8 a n 4 2 l 7 a v 4 8 t 9 a 1c t j 4 1 t 2 4 5 t 5 a m 4 6 a 3 t 1 h q 4 5 t 1",
  "h q 4 12 t 1k 4 4 t 2 a 2 4 g a 2 t 1a a 1 4 3 5 1 t 2 5 5 t 4 5 4 4 1 t 3 4 1 t t 4 2 t 3 5",
  "4 t 1 5 9 a 7 t 9 h 7 t t 4 2 a 1 h t 4 3 a w t 8 4 1 l s 4 2 5 4 t 5 a 7 h 9 t 1i 4 3 t 7 h",
  "m 4 2 t 8 a j 4 5 t 8 a i 4 7 t 4 h c t 7 a 28 t 21 4 1j t 1f 0 d t 1f 1 7 t 6 a 10 4 4 5 8",
  "t a 8 6 t a 8 4 4 1 3 1 4 m 0 3 t 5 5 1 c 1 3 m 1 8 t 2 i 5s t v a 1 t 16 4 1 t 2 5 1 c 2 t",
  "2 4 g t 3 4 1 3 2 4 8 t 1 h 8 l x t 6 5 t 4 a a 1 4 8 t m 4 b 5 4 a 5 h m t i 4 4 5 4 h 12 t",
  "l 4 7 a k t n 4 9 t 1 6 1 5 1 6 1h 4 f 5 7 h 4 t k a a 8 1 5 2 4 2 5 1 4 9 t 3 5 1 6 19 4 3",
  "6 4 5 2 6 2 5 2 h 1 q 4 h 1 5 a t 1 q 2 t p 4 7 t a 8 6 t 3 5 10 4 5 5 1 6 8 5 1 t a 8 4 h 1",
  "4 2 6 1 4 8 t z 4 1 5 2 h 1 4 9 t 2 5 1 6 1c 4 3 6 9 5 2 6 4 4 4 h 4 5 1 h 1 6 1 5 a 8 1 4 1",
  "h 1 4 3 h 1 t k a b t i 4 1 t p 4 3 6 3 5 2 6 1 5 1 6 2 5 6 h 1 5 2 4 1 5 1q t 7 4 1 t 1 4 1",
  "t 4 4 1 t f 4 1 t a 4 1 h 6 t 1b 4 1 5 3 6 8 5 5 t a 8 6 t 2 5 2 6 1 t 8 4 2 t 2 4 2 t m 4 1",
  "t 7 4 1 t 2 4 1 t 5 4 1 t 2 5 1 4 2 6 1 5 4 6 2 t 2 6 2 t 3 6 2 t 1 4 6 t 1 6 5 t 5 4 2 6 2",
  "t 7 5 3 t 5 5 b t a 4 1 t 1 4 2 t 1 4 1 t 12 4 1 t 1 4 3 6 6 5 1 t 1 6 2 t 1 6 1 t 4 6 1 t 2",
  "6 1 5 1 6 1 5 1 4 1 5 1 4 2 h 1 t 2 h 8 t 2 5 t t 1h 4 3 6 8 5 2 6 3 5 1 6 1 5 4 4 5 h a 8 2",
  "h 1 t 1 h 1 5 3 4 u t 1c 4 3 6 6 5 1 6 1 5 4 6 2 5 1 6 2 5 2 4 1 h 1 4 8 t a 8 4m t 1b 4 3 6",
  "4 5 2 t 4 6 2 5 1 6 2 5 n h 4 4 2 5 y t 1c 4 3 6 8 5 2 6 1 5 1 6 2 5 3 h 1 4 b t a 8 6 t d h",
  "j t 17 4 1 5 1 6 1 5 2 6 6 5 1 6 1 5 1 4 1 h 6 t a 8 6 t k 8 s t r 4 2 t 1 5 1 6 1 5 2 6 4 5",
  "1 6 5 5 4 t a 8 2 a 3 h 1 l 7 4 55 t 18 4 3 6 9 5 1 6 2 5 1 h 2s t w 0 w 1 a 8 9 a c t 8 4 2",
  "t 1 4 2 t 8 4 1 t 2 4 1 t o 4 6 6 1 t 2 6 2 t 2 5 1 6 1 5 1 4 1 6 1 4 1 6 1 5 3 h 9 t a 8 1y",
  "t 8 4 2 t 13 4 3 6 4 5 2 t 2 5 4 6 1 5 1 4 1 h 1 4 1 6 r t 1 4 a 5 14 4 6 5 1 6 1 4 4 5 8 h",
  "1 5 8 t 1 4 6 5 2 6 3 5 1a 4 d 5 1 6 2 5 3 h 1 4 5 h d t 21 4 7 t a h 2e t 1 5 1 6 3 5 1 6 1",
  "5 1 6 2g t x 4 1 h e t a 8 6 t 9 4 1 t 11 4 1 6 7 5 1 t 6 5 1 6 1 5 1 4 5 h a t a 8 j a 3 t",
  "2 h u 4 2 t m 5 1 t 1 6 7 5 1 6 2 5 1 6 2 5 21 t 7 4 1 t 2 4 1 t 12 4 6 5 3 t 1 5 1 t 2 5 1",
  "t 7 5 1 4 1 5 8 t a 8 6 t 6 4 1 t 2 4 1 t w 4 5 6 1 t 2 5 1 t 2 6 1 5 1 6 1 5 1 4 7 t a 8 6",
  "t 15 4 1 3 2 4 4 t a 8 6u t j 4 2 5 2 6 2 h 7 t 2 5 1 4 1 6 d 4 1 t y 4 2 6 5 5 3 t 2 6 1 5",
  "1 6 1 5 d h a 8 1 5 2d t 1 4 f t l a 8 l 4 j h l d t 1 h pm 4 2u t 33 9 1 t 5 h b t 5g 4 218",
  "t 2p 4 2 h d t ts 4 g q 1 5 6 4 f 5 a t 32z 4 5 t g7 4 5a1 t u 4 c 5 3 6 3 5 a 8 1c6 t ft 4",
  "7 t v 4 1 t a 8 4 t 2 h 27 4 1 t a 8 6 t u 4 2 t 5 5 1 h a t 1c 4 7 5 5 h 4 l 4 3 1 h 1 l a",
  "t a 8 1 t 7 a 1 t l 4 5 t j 4 c0 t 3 3 14 4 2 3 3 h a 8 5i t w 0 w 1 n a 4 h 5 t p 0 2 t p 1",
  "18 t 23 4 4 t 1 5 1 4 1j 6 7 t 4 5 d 3 1s t 2 3 1 h 1 3 1 5 b t 2 6 2 3 3 9 9 t 5p2 4 15 t w",
  "4 2p t 37 4 6pp t 4 3 1 t 7 3 1 t 2 3 1 t 83 4 f t 1 4 t t 3 4 2 t 1 4 e t 4 4 8 t b0 4 1s4",
  "t 2z 4 5 t d 4 3 t 9 4 7 t a 4 2 t 1 l 2 5 1 h 4 q 318 t 6o l a 8 3 l 3 t c4 l 6 t n l f t g",
  "l 1 i f t 1a 5 2 t n 5 9 t 38 l 1o t 6u l a t 13 l 2 t 1o l 2 6 3 5 3 l 6 6 8 q 8 5 2 l 7 5",
  "u l 4 5 1p l l t 1u l 3 5 1 l 3e t k a c t k a c t 2f l 9 t p a 3r t q 0 q 1 q 0 7 1 1 t i 1",
  "q 0 q 1 1 0 1 t 2 0 2 t 1 0 2 t 2 0 2 t 4 0 1 t 8 0 4 1 1 t 1 1 1 t 7 1 1 t b 1 q 0 q 1 2 0",
  "1 t 4 0 2 t 8 0 1 t 7 0 1 t q 1 2 0 1 t 4 0 1 t 5 0 1 t 1 0 3 t 7 0 1 t q 1 q 0 q 1 q 0 q 1",
  "q 0 q 1 q 0 q 1 q 0 q 1 q 0 s 1 2 t p 0 1 i p 1 1 i 6 1 p 0 1 i p 1 1 i 6 1 p 0 1 i p 1 1 i",
  "6 1 p 0 1 i p 1 1 i 6 1 p 0 1 i p 1 1 i 6 1 1 0 1 1 2 t 1e 8 e8 l 1j 5 4 l 1e 5 8 l 1 5 e l",
  "1 5 2 l 5 h f t 5 5 1 t f 5 uo t a 1 1 4 k 1 6 t 6 1 5x t 7 5 1 t h 5 2 t 7 5 1 t 2 5 1 t 5",
  "5 5 t 1q 3 x t 1 5 34 t 19 4 3 t 7 5 7 3 2 t a 8 4 t 1 4 1 l 8w t u 4 1 5 h t 18 4 4 5 a 8 5",
  "t 1 j cw t r 4 1 3 4 5 a 8 5y t u 4 2 5 1 4 a 8 4 t 1 h 5c t v 4 1 t 3 4 1 5 2 4 1 5 7 4 2 5",
  "5 4 1 5 8 t 1 4 1 3 68 t 7 4 1 t 4 4 1 t 2 4 1 t f 4 1 t 5h 4 2 t 9 a 7 5 15 t y 0 y 1 7 5 1",
  "3 4 t a 8 4 t 2 h lt t 1n a 1 l 3 a 1 j 4 a 24 t 19 a 1 l f a 5e t 4 4 1 t r 4 1 t 2 4 1 t 1",
  "4 2 t 1 4 1 t a 4 1 t 4 4 1 t 1 4 1 t 1 4 6 t 1 4 4 t 1 4 1 t 1 4 1 t 1 4 1 t 3 4 1 t 2 4 1",
  "t 1 4 2 t 1 4 1 t 1 4 1 t 1 4 1 t 1 4 1 t 1 4 1 t 2 4 1 t 1 4 2 t 4 4 1 t 7 4 1 t 4 4 1 t 4",
  "4 1 t 1 4 1 t a 4 1 t h 4 5 t 3 4 1 t 5 4 1 t h 4 1g t 2 i 7i t 18 l 4 t 2s l c t f l 2 t f",
  "l 1 t f l 1 t 11 l a t d a 4h l 1k t t l d t 18 l 4 t 9 l 7 t 2 l e t 6 l 4a t 6z l 5 k k9 l",
  "3 t h l 3 t d l 3 t 62 l 6 t c l 4 t 1 l f t c l 4 t 1k l 8 t a l 6 t 14 l 8 t u l 2 t c l 4",
  "t 2 l e t 9 i 13 t 9k l 8 t e l 2 t d l 3 t b l 3 t 1l l 1 t 1 l 4 t g l 2 t c l 4 t a l 7 t",
  "43 l 1 t 2k l a 8 1 l sl t wyo 4 w t 3dq 4 2 t 4ge 4 2 t 5rl 4 f t ha 4 1wi t f2 4 15u t 3t7",
  "4 5 t 6ju 4 f5vr t 1 q u t 2o q 3k t 6o 5 1e6o t 1eke s 2 t 1eke s 2 t"]

def scripts : Stretches := .ofLines [
  "1t o q 21 6 o q 21 1b o 1 21 f o 1 21 5 o n 21 1 o v 21 1 o ch 21 13 o 5 21 5 o 2 c k o 34",
  "1l 4 18 1 o 3 18 2 4q 4 18 1 o 1 18 4 4q 1 18 1 o 1 18 1 o 3 18 1 4q 1 18 1 4q k 18 1 4q 1r",
  "18 e p g 18 3p t 2 1l 4p t 1 4q 12 4 2 4q 1e 4 2 4q 3 4 1 4q 1j 1i 8 4q r 1i 4 4q 6 1i b 4q",
  "5 3 1 o 6 3 1 o e 3 1 o 3 3 1 o w 3 1 o a 3 b 1l q 3 1 1l 30 3 1 o y 3 e 3z 1 4q 1o 3z 2 4q",
  "3 3z 1c 3 1e 4a e 4q 1n 2w 2 4q 3 2w 1a 3m 2 4q f 3m 1 4q s 2c 2 4q 1 2c 1 4q b 3z 5 4q y 3",
  "5 4q 23 3 1 o t 3 29 v 4 1l f v 2 o q v 4 a 1 4q 8 a 2 4q 2 a 2 4q m a 1 4q 7 a 1 4q 1 a 3",
  "4q 4 a 2 4q 9 a 2 4q 2 a 2 4q 4 a 8 4q 1 a 4 4q 2 a 1 4q 5 a 2 4q p a 2 4q 3 1b 1 4q 6 1b 4",
  "4q 2 1b 2 4q m 1b 1 4q 7 1b 1 4q 2 1b 1 4q 2 1b 1 4q 2 1b 2 4q 1 1b 1 4q 5 1b 4 4q 2 1b 2 4q",
  "3 1b 3 4q 1 1b 7 4q 4 1b 1 4q 1 1b 7 4q h 1b a 4q 3 19 1 4q 9 19 1 4q 3 19 1 4q m 19 1 4q 7",
  "19 1 4q 2 19 1 4q 5 19 2 4q a 19 1 4q 3 19 1 4q 3 19 2 4q 1 19 f 4q 4 19 2 4q c 19 7 4q 7 19",
  "1 4q 3 3b 1 4q 8 3b 2 4q 2 3b 2 4q m 3b 1 4q 7 3b 1 4q 2 3b 1 4q 5 3b 2 4q 9 3b 2 4q 2 3b 2",
  "4q 3 3b 7 4q 3 3b 4 4q 2 3b 1 4q 5 3b 2 4q i 3b a 4q 2 46 1 4q 6 46 3 4q 3 46 1 4q 4 46 3 4q",
  "2 46 1 4q 1 46 1 4q 2 46 3 4q 2 46 3 4q 3 46 3 4q c 46 4 4q 5 46 3 4q 3 46 1 4q 4 46 2 4q 1",
  "46 6 4q 1 46 e 4q l 46 5 4q d 49 1 4q 3 49 1 4q n 49 1 4q g 49 2 4q 9 49 1 4q 3 49 1 4q 4 49",
  "7 4q 2 49 1 4q 3 49 1 4q 2 49 2 4q 4 49 2 4q a 49 7 4q 9 49 d 1q 1 4q 3 1q 1 4q n 1q 1 4q a",
  "1q 1 4q 5 1q 2 4q 9 1q 1 4q 3 1q 1 4q 4 1q 7 4q 2 1q 5 4q 3 1q 1 4q 4 1q 2 4q a 1q 1 4q 3 1q",
  "c 4q d 2b 1 4q 3 2b 1 4q 1f 2b 1 4q 3 2b 1 4q 6 2b 4 4q g 2b 2 4q q 2b 1 4q 3 3s 1 4q i 3s 3",
  "4q o 3s 1 4q 9 3s 1 4q 1 3s 2 4q 7 3s 3 4q 1 3s 4 4q 6 3s 1 4q 1 3s 1 4q 8 3s 6 4q a 3s 2 4q",
  "3 3s c 4q 1m 4b 4 4q 1 o s 4b 11 4q 2 20 1 4q 1 20 1 4q 5 20 1 4q o 20 1 4q 1 20 1 4q n 20 2",
  "4q 5 20 1 4q 1 20 1 4q 7 20 1 4q a 20 2 4q 4 20 w 4q 20 4c 1 4q 10 4c 4 4q 13 4c 1 4q 10 4c",
  "1 4q f 4c 1 4q 7 4c 4 o 2 4c 11 4q 4g 2q 12 14 1 4q 1 14 5 4q 1 14 2 4q 17 14 1 o 4 14 74 1e",
  "21 12 1 4q 4 12 2 4q 7 12 1 4q 1 12 1 4q 4 12 2 4q 15 12 1 4q 4 12 2 4q x 12 1 4q 4 12 2 4q",
  "7 12 1 4q 1 12 1 4q 4 12 2 4q f 12 1 4q 1l 12 1 4q 4 12 2 4q 1v 12 2 4q w 12 3 4q q 12 6 4q",
  "2e m 2 4q 6 m 2 4q hs h t 2z 3 4q 23 3l 3 o b 3l 7 4q m 40 9 4q 1 40 l 1g 2 o 9 4q k g c 4q",
  "d 41 1 4q 3 41 1 4q 2 41 c 4q 2m 1w 2 4q a 1w 6 4q a 1w 6 4q 2 2n 2 o 1 2n 1 o k 2n 6 4q 2h",
  "2n 7 4q 17 2n 5 4q 1y h a 4q v 23 1 4q c 23 4 4q c 23 4 4q 1 23 3 4q c 23 u 42 2 4q 5 42 b",
  "4q 18 2u 4 4q q 2u 6 4q b 2u 3 4q 2 2u w 1w s f 2 4q 2 f 1r 43 1 4q t 43 2 4q b 43 6 4q a 43",
  "6 4q e 43 2 4q 1a 1l 2 4q c 1l k 4q 25 6 1 4q 1e 6 1s 3w 1g 9 8 4q 4 9 1k 22 3 4q f 22 3 4q",
  "3 22 1c 30 b t 5 4q 17 14 2 4q 3 14 8 3w 8 4q 3 1l 1 o d 1l 1 o 7 1l 4 o 1 1l 6 o 1 1l 3 o 2",
  "1l 1 o 5 4q 12 21 5 18 1 t 1d 21 5 18 4 21 5 18 d 21 1 t 1y 21 1 18 1s 1l 74 21 m 18 2 4q 6",
  "18 2 4q 12 18 2 4q 6 18 2 4q 8 18 1 4q 1 18 1 4q 1 18 1 4q 1 18 1 4q v 18 2 4q 1h 18 1 4q f",
  "18 1 4q e 18 2 4q 6 18 1 4q j 18 2 4q 3 18 1 4q 9 18 1 4q c o 2 1l 2f o 1 4q b o 1 21 2 4q b",
  "o 1 21 f o 1 4q d 21 3 4q y o e 4q x 1l f 4q 12 o 1 18 3 o 2 21 6 o 1 21 r o 1 21 h o 15 21",
  "3 o 4 4q ii o m 4q b o l 4q ps o 74 e hg o 2 4q 3u o 2o 15 w 21 38 p 5 4q 7 p 12 14 1 4q 1",
  "14 5 4q 1 14 2 4q 1k 4d 7 4q 2 4d e 4q 1 4d n 12 9 4q 7 12 1 4q 7 12 1 4q 7 12 1 4q 7 12 1",
  "4q 7 12 1 4q 7 12 1 4q 7 12 1 4q 7 12 1 4q w t 2m o y 4q q 1d 1 4q 2h 1d c 4q 5y 1d q 4q l o",
  "1 1d 1 o 1 1d p o 9 1d 4 1l 2 1e 8 o 4 1d 4 o 1 4q 2e 1j 2 4q 2 1l 2 o 3 1j 1 o 2i 1r 2 o 3",
  "1r 5 4q 17 c 1 4q 2m 1e 1 4q g o w c 12 o 9 4q 1 o g 1r v 1e 1 4q 1s o v 1e 29 o 1b 1r 1 o",
  "2g 1r 4o o 534 1d 1s o g74 1d wd 4o 3 4q 1j 4o 9 4q 1c 26 8c 4j k 4q 2o t 2g 7 8 4q y o 2u",
  "21 3 o 2a 21 k 4q f 21 19 3y 3 4q a o 6 4q 1k 3h 8 4q 1y 3n 8 4q c 3n 6 4q w v 1a 1t 1 o 1",
  "1t 10 3k b 4q 1 3k t 1e 3 4q 26 1o 1 4q 1 o a 1o 4 4q 2 1o v 2q 1 4q 1j l 9 4q e l 2 4q a l",
  "2 4q 4 l w 2q 1v 44 o 4q 5 44 n 2h a 4q 6 12 2 4q 6 12 2 4q 6 12 9 4q 7 12 1 4q 7 12 1 4q 17",
  "21 1 o 9 21 1 18 4 21 2 o 4 4q 28 m 1a 2h 2 4q a 2h 6 4q 8mc 1e c 4q n 1e 4 4q 1d 1e 6is 4q",
  "a6 1d 2 4q 2y 1d 12 4q 7 21 c 4q 5 4 5 4q q 1i 1 4q 5 1i 1 4q 1 1i 1 4q 2 1i 1 4q 2 1i 1 4q",
  "a 1i dq 3 2 o 40 3 w 4q g 3 g 1l a o 6 4q e 1l 2 t z o 1 4q j o 1 4q 4 o 4 4q 5 3 1 4q 3r 3",
  "2 4q 1 o 1 4q w o q 21 6 o q 21 b o a 1r 1 o 19 1r 2 o v 1e 3 4q 6 1e 2 4q 6 1e 2 4q 6 1e 2",
  "4q 3 1e 3 4q 7 o 1 4q 7 o a 4q 5 o 2 4q c 25 1 4q q 25 1 4q j 25 1 4q 2 25 1 4q f 25 2 4q e",
  "25 y 4q 3f 25 5 4q 3 o 4 4q 19 o 3 4q 9 o 27 18 1 4q d o 3 4q 1 18 1b 4q 19 o 1 1l 3m 4q t",
  "27 3 4q 1d i f 4q 1 1l r o 4 4q 10 33 9 4q 3 33 r 16 5 4q 17 35 5 4q u 4i 1 4q 1 4i 10 36 4",
  "4q e 36 16 4q 28 u 1c 3p u 3d 2 4q a 3d 6 4q 10 3c 4 4q 10 3c 4 4q 14 10 8 4q 1g j b 4q 1 j",
  "b 4k 1 4q f 4k 1 4q 7 4k 1 4q 2 4k 1 4q b 4k 1 4q f 4k 1 4q 7 4k 1 4q 2 4k 3 4q 1g 4f c 4q",
  "8n 24 9 4q m 24 a 4q 8 24 o 4q 6 21 1 4q 16 21 1 4q 9 21 1x 4q 6 r 2 4q 1 r 1 4q 18 r 1 4q 2",
  "r 3 4q 1 r 2 4q 1 r m 1k 1 4q 9 1k w 3f v 2r 8 4q 9 2r 1c 4q j 1h 1 4q 2 1h 5 4q 5 1h s 3i 3",
  "4q 1 3i q 28 5 4q 1 28 1s 4q w 2k o 2j 4 4q k 2j 2 4q 1a 2j 4 1u 1 4q 2 1u 5 4q 8 1u 1 4q 3",
  "1u 1 4q t 1u 2 4q 3 1u 4 4q a 1u 7 4q 9 1u 7 4q w 38 w 34 w 4q 13 2d 4 4q c 2d 9 4q 1i 5 3",
  "4q 7 5 m 1n 2 4q 8 1n j 1m 5 4q 8 1m i 3j 7 4q 4 3j c 4q 7 3j 28 4q 21 39 1j 4q 1f 32 d 4q",
  "1f 32 7 4q 6 32 14 1f 8 4q a 1f 6 4q 12 13 3 4q t 13 8 4q 2 13 5s 4q v 3 1 4q 16 4n 1 4q 3",
  "4n 2 4q 2 4n g 4q 6 3 8 4q 9 3 x 4q 6 3 14 37 8 4q 16 3t m 4q q 3a 12 4q s n k 4q n 11 9 4q",
  "26 d 4 4q 10 d 9 4q 1 d 1v 1p a 4q 1 1p 2 4q p 3u 7 4q a 3u 6 4q 1h k 1 4q i k 8 4q 13 29 9",
  "4q 2o 3o 1 4q k 3s b 4q i 1x 1 4q 1b 1x 1q 4q 7 2p 1 4q 1 2p 1 4q 4 2p 1 4q f 2p 1 4q b 2p 6",
  "4q 1n 1y 5 4q a 1y 6 4q 4 17 1 4q 8 17 2 4q 2 17 2 4q m 17 1 4q 7 17 1 4q 2 17 1 4q 5 17 1",
  "4q 1 1l 9 17 2 4q 2 17 2 4q 3 17 2 4q 1 17 6 4q 1 17 5 4q 7 17 2 4q 7 17 3 4q 5 17 b 4q a 4h",
  "1 4q 1 4h 2 4q 1 4h 1 4q 12 4h 1 4q a 4h 1 4q 1 4h 2 4q 1 4h 1 4q 4 4h 1 4q a 4h 1 4q 2 4h 8",
  "4q 2 4h t 4q 2k 2v 1 4q 5 2v u 4q 20 4e 8 4q a 4e 4m 4q 1i 3q 2 4q 12 3q y 4q 1x 2m b 4q a",
  "2m 6 4q d 2n j 4q 1m 45 6 4q a 45 6 4q k 2q s 4q r 1 2 4q f 1 4 4q n 1 55 4q 1o x 2s 4q 2b",
  "4m c 4q 1 4m 7 w 2 4q 1 w 2 4q 8 w 1 4q 2 w 1 4q u w 1 4q 2 w 2 4q c w 9 4q a w 1y 4q 8 2t 2",
  "4q 1a 2t 2 4q b 2t r 4q 20 4p 8 4q 2b 3v d 4q g h 1l 3g 7 4q a v 2e 4q 8 3o 2g 4q y 3x e 4q",
  "a 3x 6 4q 9 b 1 4q 19 b 1 4q e b a 4q t b 3 4q w 2e 2 4q m 2e 1 4q e 2e 21 4q 7 2f 1 4q 2 2f",
  "1 4q 18 2f 3 4q 1 2f 1 4q 2 2f 1 4q 9 2f 8 4q a 2f 6 4q 6 1a 1 4q 2 1a 1 4q 11 1a 1 4q 2 1a",
  "1 4q 6 1a 7 4q a 1a 8m 4q p 2a 7 4q h 1s 1 4q 15 1s 3 4q t 1s 2d 4q 1 26 f 4q 1e 46 d 4q 1",
  "46 pm q 2u 4q 33 q 1 4q 5 q b 4q 5g q 218 4q 2r s d 4q uu z a 4q 32z z 5 4q g7 2 5a1 4q 1m",
  "1c 1c6 4q ft 7 7 4q v 2o 1 4q a 2o 4 4q 2 2o 27 47 1 4q a 47 6 4q u 8 2 4q 6 8 a 4q 1y 3e a",
  "4q a 3e 1 4q 7 3e 1 4q l 3e 5 4q j 3e c0 4q 1m 1z 5i 4q 2j 2g 2t 4q 23 2l 4 4q 1l 2l 7 4q h",
  "2l 1s 4q 1 48 1 2x 2 1d 1 1v b 4q 7 1d 9 4q 5c0 48 d2 1v 15 4q 1 1v v 48 2p 4q 37 48 6pp 4q",
  "4 1r 1 4q 7 1r 1 4q 2 1r 1 4q 1 1r 7z 1j 3 1r f 4q 1 1j t 4q 3 1j 2 4q 1 1r e 4q 4 1r 8 4q",
  "b0 2x 1s4 4q 2z y 5 4q d y 3 4q 9 y 7 4q a y 2 4q 4 y 4 o 318 4q 71 o 3 4q c4 o 6 4q n o f",
  "4q h o f 4q 1a 1l 2 4q n 1l 9 4q 38 o 1o 4q 6u o a 4q 13 o 2 4q 1q o 3 1l h o 8 1l 2 o 7 1l",
  "u o 4 1l 1p o l 4q 1y 18 3e 4q k o c 4q k o c 4q 2f o 9 4q p o 3r 4q 2d o 1 4q 1z o 1 4q 2 o",
  "2 4q 1 o 2 4q 2 o 2 4q 4 o 1 4q c o 1 4q 1 o 1 4q 7 o 1 4q 1t o 1 4q 4 o 2 4q 8 o 1 4q 7 o 1",
  "4q s o 1 4q 4 o 1 4q 5 o 1 4q 1 o 3 4q 7 o 1 4q 9g o 2 4q 84 o 2 4q 1e o i4 3r f 4q 5 3r 1",
  "4q f 3r uo 4q v 21 6 4q 6 21 5x 4q 7 15 1 4q h 15 2 4q 7 15 1 4q 2 15 1 4q 5 15 5 4q 1q t x",
  "4q 1 t 34 4q 19 2y 3 4q e 2y 2 4q a 2y 4 4q 2 2y 8w 4q v 4g h 4q 1m 4l 5 4q 1 4l cw 4q 16 2s",
  "5y 4q 17 31 4 4q 1 31 dc 4q 7 12 1 4q 4 12 1 4q 2 12 1 4q f 12 1 4q 5h 2i 2 4q g 2i 15 4q 24",
  "0 4 4q a 0 4 4q 2 0 lt 4q 1w o 24 4q 1p o 5e 4q 4 3 1 4q r 3 1 4q 2 3 1 4q 1 3 2 4q 1 3 1 4q",
  "a 3 1 4q 4 3 1 4q 1 3 1 4q 1 3 6 4q 1 3 4 4q 1 3 1 4q 1 3 1 4q 1 3 1 4q 3 3 1 4q 2 3 1 4q 1",
  "3 2 4q 1 3 1 4q 1 3 1 4q 1 3 1 4q 1 3 1 4q 1 3 1 4q 2 3 1 4q 1 3 2 4q 4 3 1 4q 7 3 1 4q 4 3",
  "1 4q 4 3 1 4q 1 3 1 4q a 3 1 4q h 3 5 4q 3 3 1 4q 5 3 1 4q h 3 1g 4q 2 3 7i 4q 18 o 4 4q 2s",
  "o c 4q f o 2 4q f o 1 4q f o 1 4q 11 o a 4q 4u o 1k 4q q o 1 1j 2 o d 4q 18 o 4 4q 9 o 7 4q",
  "2 o e 4q 6 o 4a 4q rd o 3 4q h o 3 4q d o 3 4q 62 o 6 4q c o 4 4q 1 o f 4q c o 4 4q 1k o 8",
  "4q a o 6 4q 14 o 8 4q u o 2 4q c o 4 4q 2 o e 4q 9 o 13 4q 9k o 8 4q e o 2 4q d o 3 4q b o 3",
  "4q 1l o 1 4q 1 o 4 4q g o 2 4q c o 4 4q a o 7 4q 43 o 1 4q 2v o sl 4q wyo 1d w 4q 3dq 1d 2",
  "4q 4ge 1d 2 4q 5rl 1d f 4q ha 1d 1wi 4q f2 1d 15u 4q 3t7 1d 5 4q 6ju 1d f5vr 4q 1 o u 4q 2o",
  "o 3k 4q 6o 1l 47bk 4q"]

def categoryNames : List (List String) := [
  ["lu", "uppercaseletter"], ["ll", "lowercaseletter"], ["lt", "titlecaseletter"],
  ["lm", "modifierletter"], ["lo", "otherletter"], ["mn", "nonspacingmark"], ["mc", "spacingmark"],
  ["me", "enclosingmark"], ["nd", "decimalnumber", "digit"], ["nl", "letternumber"],
  ["no", "othernumber"], ["pc", "connectorpunctuation"], ["pd", "dashpunctuation"],
  ["ps", "openpunctuation"], ["pe", "closepunctuation"], ["pi", "initialpunctuation"],
  ["pf", "finalpunctuation"], ["po", "otherpunctuation"], ["sm", "mathsymbol"],
  ["sc", "currencysymbol"], ["sk", "modifiersymbol"], ["so", "othersymbol"],
  ["zs", "spaceseparator"], ["zl", "lineseparator"], ["zp", "paragraphseparator"],
  ["cc", "control", "cntrl"], ["cf", "format"], ["cs", "surrogate"], ["co", "privateuse"],
  ["cn", "unassigned"]]

def categoryGroups : List (List String × List String) := [
  (["l", "letter"], ["lu", "ll", "lt", "lm", "lo"]), (["lc", "casedletter"], ["lu", "ll", "lt"]),
  (["m", "mark", "combiningmark"], ["mn", "mc", "me"]), (["n", "number"], ["nd", "nl", "no"]),
  (["p", "punctuation", "punct"], ["pc", "pd", "ps", "pe", "pi", "pf", "po"]),
  (["s", "symbol"], ["sm", "sc", "sk", "so"]), (["z", "separator"], ["zs", "zl", "zp"]),
  (["c", "other"], ["cc", "cf", "cs", "co", "cn"])]

def scriptNames : List (List String) := [
  ["adlm", "adlam"], ["ahom"], ["hluw", "anatolianhieroglyphs"], ["arab", "arabic"],
  ["armn", "armenian"], ["avst", "avestan"], ["bali", "balinese"], ["bamu", "bamum"],
  ["bass", "bassavah"], ["batk", "batak"], ["beng", "bengali"], ["bhks", "bhaiksuki"],
  ["bopo", "bopomofo"], ["brah", "brahmi"], ["brai", "braille"], ["bugi", "buginese"],
  ["buhd", "buhid"], ["cans", "canadianaboriginal"], ["cari", "carian"],
  ["aghb", "caucasianalbanian"], ["cakm", "chakma"], ["cham"], ["cher", "cherokee"],
  ["chrs", "chorasmian"], ["zyyy", "common"], ["copt", "coptic", "qaac"], ["xsux", "cuneiform"],
  ["cprt", "cypriot"], ["cpmn", "cyprominoan"], ["cyrl", "cyrillic"], ["dsrt", "deseret"],
  ["deva", "devanagari"], ["diak", "divesakuru"], ["dogr", "dogra"], ["dupl", "duployan"],
  ["egyp", "egyptianhieroglyphs"], ["elba", "elbasan"], ["elym", "elymaic"], ["ethi", "ethiopic"],
  ["gara", "garay"], ["geor", "georgian"], ["glag", "glagolitic"], ["goth", "gothic"],
  ["gran", "grantha"], ["grek", "greek"], ["gujr", "gujarati"], ["gong", "gunjalagondi"],
  ["guru", "gurmukhi"], ["gukh", "gurungkhema"], ["hani", "han"], ["hang", "hangul"],
  ["rohg", "hanifirohingya"], ["hano", "hanunoo"], ["hatr", "hatran"], ["hebr", "hebrew"],
  ["hira", "hiragana"], ["armi", "imperialaramaic"], ["zinh", "inherited", "qaai"],
  ["phli", "inscriptionalpahlavi"], ["prti", "inscriptionalparthian"], ["java", "javanese"],
  ["kthi", "kaithi"], ["knda", "kannada"], ["kana", "katakana"], ["kawi"], ["kali", "kayahli"],
  ["khar", "kharoshthi"], ["kits", "khitansmallscript"], ["khmr", "khmer"], ["khoj", "khojki"],
  ["sind", "khudawadi"], ["krai", "kiratrai"], ["laoo", "lao"], ["latn", "latin"],
  ["lepc", "lepcha"], ["limb", "limbu"], ["lina", "lineara"], ["linb", "linearb"], ["lisu"],
  ["lyci", "lycian"], ["lydi", "lydian"], ["mahj", "mahajani"], ["maka", "makasar"],
  ["mlym", "malayalam"], ["mand", "mandaic"], ["mani", "manichaean"], ["marc", "marchen"],
  ["gonm", "masaramgondi"], ["medf", "medefaidrin"], ["mtei", "meeteimayek"],
  ["mend", "mendekikakui"], ["merc", "meroiticcursive"], ["mero", "meroitichieroglyphs"],
  ["plrd", "miao"], ["modi"], ["mong", "mongolian"], ["mroo", "mro"], ["mult", "multani"],
  ["mymr", "myanmar"], ["nbat", "nabataean"], ["nagm", "nagmundari"], ["nand", "nandinagari"],
  ["talu", "newtailue"], ["newa"], ["nkoo", "nko"], ["nshu", "nushu"],
  ["hmnp", "nyiakengpuachuehmong"], ["ogam", "ogham"], ["olck", "olchiki"], ["onao", "olonal"],
  ["hung", "oldhungarian"], ["ital", "olditalic"], ["narb", "oldnortharabian"],
  ["perm", "oldpermic"], ["xpeo", "oldpersian"], ["sogo", "oldsogdian"],
  ["sarb", "oldsoutharabian"], ["orkh", "oldturkic"], ["ougr", "olduyghur"], ["orya", "oriya"],
  ["osge", "osage"], ["osma", "osmanya"], ["hmng", "pahawhhmong"], ["palm", "palmyrene"],
  ["pauc", "paucinhau"], ["phag", "phagspa"], ["phnx", "phoenician"], ["phlp", "psalterpahlavi"],
  ["rjng", "rejang"], ["runr", "runic"], ["samr", "samaritan"], ["saur", "saurashtra"],
  ["shrd", "sharada"], ["shaw", "shavian"], ["sidd", "siddham"], ["sgnw", "signwriting"],
  ["sinh", "sinhala"], ["sogd", "sogdian"], ["sora", "sorasompeng"], ["soyo", "soyombo"],
  ["sund", "sundanese"], ["sunu", "sunuwar"], ["sylo", "sylotinagri"], ["syrc", "syriac"],
  ["tglg", "tagalog"], ["tagb", "tagbanwa"], ["tale", "taile"], ["lana", "taitham"],
  ["tavt", "taiviet"], ["takr", "takri"], ["taml", "tamil"], ["tnsa", "tangsa"],
  ["tang", "tangut"], ["telu", "telugu"], ["thaa", "thaana"], ["thai"], ["tibt", "tibetan"],
  ["tfng", "tifinagh"], ["tirh", "tirhuta"], ["todr", "todhri"], ["toto"],
  ["tutg", "tulutigalari"], ["ugar", "ugaritic"], ["vaii", "vai"], ["vith", "vithkuqi"],
  ["wcho", "wancho"], ["wara", "warangciti"], ["yezi", "yezidi"], ["yiii", "yi"],
  ["zanb", "zanabazarsquare"]]

def isCategory (i : Nat) (c : Char) : Bool := categories.at? c.toNat == some i

def isScript (i : Nat) (c : Char) : Bool := scripts.at? c.toNat == some i

def placeOf? (name : String) (names : List (List String)) : Option Nat :=
  names.findIdx? (·.contains name)

def category? (name : String) : Option (Char → Bool) :=
  match placeOf? name categoryNames, categoryGroups.find? (·.1.contains name) with
  | some i, _ => some (isCategory i)
  | none, some (_, members) =>
    let places := members.filterMap fun m ↦ placeOf? m categoryNames
    some fun c ↦ places.any fun i ↦ isCategory i c
  | none, none => none

def script? (name : String) : Option (Char → Bool) := (placeOf? name scriptNames).map isScript

end Rulebook.Pattern
