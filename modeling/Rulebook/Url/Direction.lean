import Rulebook.Text.Ranges

namespace Rulebook.Url

open Text

def rightToLeftRanges : Ranges := .ofLines [
  "14u 0 1 0 2 0 2 0 9 10 j 0 2 0 1 0 d 1b y 2 1 2s f 1 7 1 a m 1 t t 2g b 1l 9 1 4 0 3 n 4 0 9",
  "0 3 0 7 14 5 1l 8 15 1bzc w cd 1q 4k 0 1vw 7v 4 68 f 11 a 4k 6 22 a df s 27 6o 15 3 27 3 1x",
  "b 1c 4 34 16o9 5r 2a x 7 s2"]

def arabicNumberRanges : Ranges := .ofLines [
  "19c 9 1 1 1fwj 9 86 u"]

def europeanNumberRanges : Ranges := .ofLines [
  "1c 9 1bq 9 1drb q"]

def neutralRanges : Ranges := .ofLines [
  "0 8 5 d 5 e a 6 q 5 q 2k v 0 ch 1 7 d 2 r 1 g 39 0 3k 0 b7 5 3a 1 1 1 1 0 1 1 2i 0 37 0 a 0",
  "7g 3 e0 1 7 0 6t 0 75 7 3h 6 cg 0 6y 3 uq 9 2u 0 ii 1 8u 0 k q 8l 5 48 x 170 51 1u 21 1o bv",
  "1x p 1 40 p h7 1 9e 74 id 1 2w 6d 5 e 6 74 ec 3 o f 0 6 0 5 2 2o 0 2i 0 5g z 5i4 1r h3k 1i",
  "92 2 2r 0 a 1 3k x 2u 0 4f 3 c 1 1m 3 ky 1 g5u h 3j 1c 1x 1 je 0 1q 24 3 g 1ha 0 ex 6 102 j",
  "16i c 1uw s fsg 0 jd2 2g 3 0 56 2e 33c 0 2cw fz 1p 2 1p 0 4y vr 4 4a 4 8m 26 9f c 14 7 19 1",
  "6 8 d 4 8 7 62"]

def nonspacingRanges : Ranges := .ofLines [
  "lc 33 7n 6 7b 18 1 0 1 1 1 1 1 0 20 a 1c k g 0 2t 6 2 5 2 1 1 3 z 0 u q 2j a 1m 8 9 0 o 3 1",
  "8 1 2 1 4 17 2 1o 7 16 1k 1j 0 1 0 4 7 4 0 3 6 a 1 t 0 1m 0 4 3 8 0 k 1 q 4 1l 0 4 g u 1 3 0",
  "b 1 1l 0 4 7 4 0 k 1 m 7 1m 0 2 0 1 3 8 9 b 1 u 0 1p 0 c 0 1e 0 3 0 1j 0 1 2 5 g b 1 t 0 1m",
  "0 f 1 k 1 s 1 1l 1 4 3 8 0 k 1 t 0 20 0 7 4 2i 0 2 6 c 7 2q 0 2 8 b 6 21 1 r 0 1 0 1 0 1j d",
  "1 4 1 1 5 1b 9 0 2u 3 1 5 1 1 2 1 p 1 4 2 g 3 d 0 2 1 6 0 f 0 jj 2 qa 2 t 1 u 1 u 1 1v 6 8 0",
  "2 a 9 0 4n 1 y 0 3a 2 4 1 9 0 6 2 63 1 2 0 1m 0 1 8 1 0 2 7 6 c 1c u 1d 3 1c 0 1 4 1 0 5 0",
  "14 8 c 1 w 3 2 1 1 2 1k 0 1 1 3 0 1 2 1m 7 2 1 48 2 1 c 1 6 4 0 6 0 3 1 5i 1r k0 w 2da 2 3x",
  "0 2o v fe 3 2z 1 n9w 3 1 9 w 1 28 1 7k 0 3 0 4 0 p 1 5 0 47 1 q h d 0 12 7 p a 1a 2 1c 0 2 3",
  "2 1 13 0 1v 5 2 1 2 1 c 0 8 0 1b 0 1f 0 1 2 2 1 5 1 1 0 16 1 8 0 6m 0 2 0 4 0 fn4 0 ld f r1",
  "0 6a 0 45 4 1ae e 14 7 4l 1 fx 3 ar 1 28 2 1y a 1d 3 3f 0 1i e 15 0 2 1 a 2 1d 3 2 1 7 0 1p",
  "2 10 4 1 7 1q 0 c 1 1g 8 a 3 2 0 2n 2 2 0 1 1 6 0 2 0 4d 0 3 7 l 1 1l 1 3 0 11 e 5f 7 2 2 1",
  "0 n 0 2c 5 1 0 4 1 1 1 6m 3 6 1 1 1 r 1 2d 7 2 0 1 1 2y 0 1 0 2 5 1 0 2t 2 2 3 1 4 77 8 1 1",
  "74 1 1 0 4 0 40 7 4 0 w 5 2 1 14 5 2 3 8 0 9 5 2 2 1a c 1 1 ba d 2c l 2 6 1 1 1 1 3e k 1 0",
  "20 1 3 0 1 0 9n 1 b 1 1g 4 5 0 1 0 459 0 6 e asa 4 1n 6 t4 0 1r 3 29 0 f5k 1 3mp 1y f4 2 h 7",
  "2 6 u 3 44 2 1iz 1i 4 1d 8 0 e 0 m k 11s 3z 4g 6 af 0 1p 3 e4 3 rk 6 31 6"]

inductive Direction
  | left
  | right
  | arabicNumber
  | europeanNumber
  | neutral
  | nonspacing
deriving DecidableEq, Repr

def direction (c : Char) : Direction :=
  if rightToLeftRanges.contains c then .right
  else if arabicNumberRanges.contains c then .arabicNumber
  else if europeanNumberRanges.contains c then .europeanNumber
  else if neutralRanges.contains c then .neutral
  else if nonspacingRanges.contains c then .nonspacing
  else .left

def hasRightToLeft (label : List Char) : Bool :=
  label.any fun c ↦ direction c = .right || direction c = .arabicNumber

def runsLeft (ds : List Direction) : Bool :=
  ds.all (fun d ↦ d ≠ .right && d ≠ .arabicNumber) &&
    match ds.reverse.dropWhile (· = .nonspacing) with
    | d :: _ => d = .left || d = .europeanNumber
    | [] => false

def runsRight (ds : List Direction) : Bool :=
  ds.all (· ≠ .left) && !(ds.contains .arabicNumber && ds.contains .europeanNumber) &&
    match ds.reverse.dropWhile (· = .nonspacing) with
    | d :: _ => d = .right || d = .arabicNumber || d = .europeanNumber
    | [] => false

/-- The first letter decides on the direction of a label. -/
def keepsDirection (label : List Char) : Bool :=
  match label.map direction with
  | [] => true
  | .left :: ds => runsLeft (.left :: ds)
  | .right :: ds => runsRight (.right :: ds)
  | _ => false

end Rulebook.Url
