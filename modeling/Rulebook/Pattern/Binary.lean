import Rulebook.Pattern.Category

namespace Rulebook.Pattern

open Text

def otherStartRanges : Ranges := .ofLines ["4ud 1 1ox 0 l 0 31o 1"]

def otherContinueRanges : Ranges := .ofLines ["53 0 jz 0 34x 8 19k 0 181 1 3cd 0 14rt 0"]

def otherMathRanges : Ranges := .ofLines [
  "2m 0 oh 2 2 0 q 1 2 1 5k0 0 r 2 b 0 w 3 o 1 e 1 1t c 4 0 3 1 4 4 i 0 4 0 2 9 1 0 3 4 6 0 3 1 2",
  "1 1 2 1 5 3 3 5 4 23 4 2 3 1 1 1 1 1 0 1 4 2 1 4 1 4 h 2 1 1 0 1 6 1 0 6 1 82 3 4o 1 1 0 o 0 h",
  "0 cd 1 c 8 5 4 5 1 2 1 3 4 e 0 1 0 2 5 o 1 1l 0 1 0 t 3 9 1 9i 1 v 9 b7 l 1r 3 w 1 15yb 0 1 0",
  "4 0 5v 0 1 0 160x 2c 1 1y 1 1 2 0 2 1 2 3 1 b 1 0 1 6 1 1s 1 3 2 7 1 6 1 r 1 3 1 4 1 0 3 6 1",
  "9f 2 o 1 o 1 u 1 o 1 u 1 o 1 u 1 o 1 u 1 o 1 7 2 1d 4cg 3 1 q 1 1 1 0 2 0 1 9 1 3 1 0 1 0 6 0",
  "4 0 1 0 1 0 1 2 1 1 1 0 2 0 1 0 1 0 1 0 1 0 1 1 1 0 2 3 1 6 1 3 1 3 1 0 1 9 1 g 5 2 1 4 1 g"]

def otherExtendRanges : Ranges := .ofLines [
  "1xa 0 o 0 9y 0 o 0 2u 0 o 0 6g 0 1 0 4 1 1 1 9 1 2v 0 o 0 3b 0 f 0 2mt 0 5 0 1 0 5 1 2t 0 1z 1",
  "t4 0 36p 1 nxf 0 30 0 gyl 1 3kw 0 38 0 7c 0 e 0 9 0 2o 0 9 0 2 0 1 2 5 0 68 0 c 0 6p 0 7a 0 hl",
  "0 c 0 h4i 1 j8z 0 7 5 h419 2n"]

/-- What begins or goes on a name, but may become something else where names are composed. -/
def unstableRanges : Ranges := .ofLines [
  "oq 0 8ww 1 148x 5 ba 1 38 0 1 0 1 0 1 0 1 0 1 0 1 0 1 0"]

def unstableStartRanges : Ranges := .ofLines ["2sz 0 3j 0 1bl6 1"]

def compatibilityRanges : Ranges := .ofLines [
  "9hh 1 1h 0 13nn 7h 2 0 1 0 2 9 1 0 1 0 2 1 3 5x 2sjk f3"]

def namedRanges : List (List String × Ranges) := [
  (["asciihexdigit", "ahex"], .ofLines ["1c 9 7 5 q 5"]),
  (["bidicontrol", "bidic"], .ofLines ["17g 0 54h 1 q 4 1j 3"]),
  (["bidimirrored", "bidim"], .ofLines [
    "14 1 i 0 1 0 s 0 1 0 t 0 1 0 19 0 f 0 2v2 3 1gd 1 1wc 1 a 1 1i 1 e 1 4x 0 5c 3 3 5 3 0 3 1",
    "3 3 1 3 1 0 1 0 4 8 5 0 1 h 5 3 9 1 1 0 1 7 2 u 2 3 5 0 9 1 2 i 5 1 9 4 2 1 4 n 2 f 8 3 k",
    "1 7 1 u5 d 22 0 2 3 1 1 1 2 5 3 5 2 3 d b7 l 2 5 1 d 8 0 7 5 3 0 4 4 1 1 2 4 4 0 1 2 2 1 a",
    "5 2 1 c i 1 3 2 0 1 0 2 0 1 3 5 1 6 2 o 1 b 1 4 3 1 1 2 1 4 16 2 7 1 13 5 0 1 0 3 4 5 2 4",
    "0 3 4 1 0 74 0 eb 3 3 1 1 1 e 1 2 9 17 7 bv 9 2 7 14ql 5 5 1 4i 1 i 0 1 0 s 0 1 0 t 0 1 0",
    "1 1 1 1 16k7 0 1l 0 1l 0 1l 0 1l 0"]),
  (["dash"], .ofLines [
    "19 0 124 0 1f 0 2td 0 sl 0 1l5 5 1p 0 13 0 f 0 au 0 2dg 0 2 0 v 1 4 0 s 0 ce 0 j 0 33 0",
    "14ls 1 11 0 a 0 4p 0 2u8 0 8u 0"]),
  (["defaultignorablecodepoint", "di"], .ofLines [
    "4t 0 ip 0 jw 0 282 1 18z 1 2d 4 1kr 4 q 4 1d f 3ck 0 14ez f 6n 0 4g 0 27 8 119j 3 43z 7",
    "h405 35r"]),
  (["deprecated", "dep"], .ofLines ["95 0 10p 0 1s3 0 1 0 1m1 1 1qd 5 jd 1 jh06 0"]),
  (["diacritic", "dia"], .ofLines [
    "2m 0 1 0 1z 0 6 0 4 0 2 1 dz 4e 1 7 5 5 h 1 4 0 9 1 71 4 5t 0 1j g 1 q 1 0 1 1 1 0 3q 7 4",
    "1 3q 1 4 1 3 2 1v q 2j a 1m a y 1 3i 7 15 9 g r 1p 0 g 0 3 3 s 0 22 0 g 0 32 0 g 0 32 0 g",
    "0 1b 2 1o 0 g 0 7 0 3b 0 32 0 g 0 32 0 g 0 31 1 g 0 3g 0 3g 5 1 0 2z 0 d 4 23 1 r 0 1 0 1",
    "0 4 1 1u 2 1 1 1q 0 34 0 1 1 14 1 4 4 p 6 1 0 a 1 jl 2 qc 1 4z a 9 0 9n 2 8p 7 2 0 1c e 2",
    "a 2w 0 f 0 12 8 1i 1 3u 1 1s 5 2a o 4 0 6 0 2 2 1e 1q 2h b 11 a cd 0 1 2 b 2 d 2 d 2 d 1",
    "2k0 2 8t 0 e2 5 2x 3 2n 0 n76 0 c 1 1 0 s 1 2a 1 e x 2u 2 31 1 5m 0 r h 1l 3 10 0 2n 0 c 0",
    "10 0 45 2 1t 3 1f 0 2s 4 9 2 3k 1 fn4 0 ld f 7i 0 1 0 1b 0 19 1 1v 0 l8 0 wv 5 1 15 1 8 mi",
    "1 fv 5 d1 2 1y a 1d 3 5c 0 15 0 20 1 3c 1 1q 0 24 0 9 2 2w 1 4y 1 29 0 g 0 o 6 3 4 5p 0 3",
    "0 3f 1 6z 1 3i 0 3a 1 37 0 7h 1 76 1 4 0 4c 0 2b 0 i 0 29 0 bp 0 76 0 1 1 29 0 4hb e asa 4",
    "1n 6 uw g 28 1 cn2 3 1 6 1 1 64h 19 2 m f4 2 3 5 8 7 2 6 u 3 2v6 1p 5e 6 af 0 1p 3 15s 6",
    "31 2 1 2"]),
  (["emojicomponent", "ecomp"], .ofLines [
    "z 0 6 0 5 9 6ab 0 5x 0 17or 0 1c5y p e3 4 14g 3 gw30 2n"]),
  (["emojimodifier", "emod"], .ofLines ["2qrf 4"]),
  (["emojimodifierbase", "ebase"], .ofLines [
    "7j1 0 63 0 g 3 2iyf 0 1o 2 2 0 2 2 39 1 2 a l i 3 0 4 2 1 2 7 0 1 0 o 0 5l 1 4 0 l 0 4 1",
    "4u 2 3 4 2b 0 g 2 9 0 b 0 fz 0 2 0 8 7 6 0 9 9 2 2 1k 0 1p 1 1 1 1 0 h 2 1 c 6d 2 16 8"]),
  (["emojipresentation", "epres"], .ofLines [
    "6xm 1 5p 3 3 0 2 0 eh 1 l 1 1e b 17 0 j 0 d 0 8 1 h 1 5 1 8 0 5 0 l 0 7 1 1 0 4 0 2 0 7 0",
    "4 1 s 0 z 0 1 0 4 2 1 0 1p 2 o 0 e 0 nv 1 1f 0 4 0 2hf2 0 5m 0 5a 0 2 9 23 p 1 0 o 0 k 0 2",
    "4 1 2 l 1 4u w c 8 1 1x 1 l c 16 4 4 c g 3 0 3 1y 1 0 1 56 2 1q d 3 1 n i 0 q 1 d 0 2e 2c",
    "1c 1x 6 0 3 2 2 2 4 3 b 1 7 8 6b b 4 0 7v 1a 1 9 1 54 34 c 3 9 5 1j 7 e 2 a 6 8"]),
  (["extendedpictographic", "extpict"], .ofLines [
    "4p 0 4 0 68d 0 c 0 60 0 m 0 2i 5 f 1 a7 1 c 0 2n 0 1y 0 p a 4 2 5j 0 6f 1 a 0 9 0 1m 3 1 5",
    "1 b 1 35 a 39 2 a 1 0 1 0 6 0 3 0 6 0 a 1 f 0 2 0 4 0 1 0 4 2 1 0 b 4 19 2 9 0 e 0 e 0 ac",
    "1 cv 2 j 1 1f 0 4 0 yi 0 c 0 gp 0 1 0 2fza 73 d 2 v 0 1o 5 c 1 e 0 2 9 i 1k r e a 0 k 0 2",
    "8 1 3 9 c1 5 8t 8 7d 1c 3j 38 b 2d 16 c 3 1k 7 a 5 14 7 u 29 c 1a 1 9 1 c8 74 sd"]),
  (["extender", "ext"], .ofLines [
    "53 0 ew 1 oe 0 c9 0 nu 0 kw 0 3j 0 1tv 0 1k 0 gz 0 b2 0 1w 0 3ux 0 17 4 2v 1 2l 2 lxy 0",
    "16e 0 qq 0 m 0 3t 0 30 0 l 1 gor 0 1lc 1 2ca 0 h4 2 y7 0 fxl 1 ws 1 1 0 me0 1 1l2 2"]),
  (["hexdigit", "hex"], .ofLines ["1c 9 7 5 q 5 1eax 9 7 5 q 5"]),
  (["idsbinaryoperator", "idsb"], .ofLines ["9gw 1 2 9 dt 0"]),
  (["idstrinaryoperator", "idst"], .ofLines ["9gy 1"]),
  (["idsunaryoperator", "idsu"], .ofLines ["9ha 1"]),
  (["joincontrol", "joinc"], .ofLines ["6bw 1"]),
  (["logicalorderexception", "loe"], .ofLines ["2tc 4 3f 4 25s 2 2 0 smy 1 2 0 1 1"]),
  (["noncharactercodepoint", "nchar"], .ofLines [
    "1e4w v em 1 1eke 1 1eke 1 1eke 1 1eke 1 1eke 1 1eke 1 1eke 1 1eke 1 1eke 1 1eke 1 1eke 1",
    "1eke 1 1eke 1 1eke 1 1eke 1 1eke 1"]),
  (["othergraphemeextend", "ogrext"], otherExtendRanges),
  (["otheridcontinue", "oidc"], otherContinueRanges),
  (["otheridstart", "oids"], otherStartRanges),
  (["othermath", "omath"], otherMathRanges),
  (["patternsyntax", "patsyn"], .ofLines [
    "x e a 6 q 3 1 0 q 3 y 6 1 0 1 1 1 0 1 1 4 0 4 0 3 0 n 0 v 0 654 n 8 e 2 i 1 9 8h jz 4g hh",
    "u vf e8 3j ap 2 4 o f 0 14i5 1 79 1"]),
  (["patternwhitespace", "patws"], .ofLines ["9 4 i 0 2s 0 688 1 o 1"]),
  (["prependedconcatenationmark", "pcm"], .ofLines ["16o 5 5z 0 1d 0 ao 1 28 0 1g4a 0 f 0"]),
  (["quotationmark", "qmark"], .ofLines [
    "y 0 4 0 3n 0 f 0 670 7 p 1 2rr 0 cp 3 d 2 14pt 3 59 0 4 0 2i 1"]),
  (["radical"], .ofLines ["96o p 1 2g c 5x"]),
  (["regionalindicator", "ri"], .ofLines ["2qcm p"]),
  (["sentenceterminal", "sterm"], .ofLines [
    "x 0 c 0 g 0 11l 0 43 2 50 0 17 2 6u 0 1p 0 1 0 3 1 85 1 1d0 1 ly 0 4 1 lh 0 5i 1 5o 0 5 0",
    "8q 1 9u 3 4u 1 2 1 t 1 58 1 1t 1 qk 1 9 2 2qs 0 d 0 m 1 bx 0 n3w 0 7i 1 6b 0 3 0 am 1 2e 1",
    "2n 0 48 1 43 2 40 1 6x 0 g9y 0 3 1 4p 0 c 0 g 0 1t 0 25w 1 zh 4 18 3 59 1 39 3 3j 2 3l 1 6",
    "0 g 1 2g 1 1 1 30 0 bl 1 ad 1 5 e 2x 1 6x 2 ed 0 1 0 6z 1 2f 1 bo 1 j8 1 22 1 euh 1 3p 0",
    "1t 1 b 0 nn 0 feu 0 5wo 0"]),
  (["softdotted", "sd"], .ofLines [
    "2x 1 5g 0 7t 0 u 0 1g 0 k 0 8w 0 2q 0 1 0 4y1 0 1f 0 d 0 3 0 3o 0 4d 0 bp 0 5y 1 27m 0",
    "2bol 1 1e 1 1e 1 1e 1 1e 1 1e 1 1e 1 1e 1 1e 1 1e 1 1e 1 1e 1 1e 1 1om 0 8h 1 q 0"]),
  (["terminalpunctuation", "term"], .ofLines [
    "x 0 a 0 1 0 b 1 3 0 n2 0 8 0 e9 0 1l 0 20 0 e 0 1 2 50 0 17 a 1 0 6j 1 1i e v 0 79 1 z8 1",
    "4s 0 4 5 8n 1 lx 7 lh 0 3g 2 1z 1 4d 2 3 0 13 3 2 1 8q 1 9u 3 4u 1 1 2 t 1 58 4 1q 1 qk 1",
    "9 2 2qs 0 d 0 4 0 a 0 1 1 3 1 bw 1 n3v 1 7h 2 6b 4 am 1 2e 1 2n 0 47 2 43 2 3j 0 g 1 6x 0",
    "g9w 2 1 3 4p 0 a 0 1 0 b 1 3 0 1t 0 2 0 u2 0 1c 0 w6 0 5j 0 8m 1 48 5 1w 5 2h 3 qg 4 18 3",
    "59 6 34 3 3j 2 3l 1 6 0 g 1 2g 4 30 0 bl 2 c 1 9y 3 3 e 2x 1 6x 2 ed 0 1 0 6z 1 2f 1 4 1",
    "bi 2 19 0 hx 1 22 1 10r 4 dtl 1 3p 0 1t 2 a 0 nm 1 feu 0 5wn 3"]),
  (["variationselector", "vs"], .ofLines ["4qz 2 1 0 19f4 f i9yo 6n"])]

def isAnyCategory (places : List Nat) (c : Char) : Bool := places.any fun i ↦ isCategory i c

def isMath (c : Char) : Bool := isCategory 18 c || otherMathRanges.contains c

/-- Names begin with a letter or a number that is written in letters. -/
def isStart (c : Char) : Bool :=
  (isAnyCategory [0, 1, 2, 3, 4, 9] c || otherStartRanges.contains c) && c.toNat != 0x2e2f

def isContinue (c : Char) : Bool :=
  isStart c || isAnyCategory [5, 6, 8, 11] c || otherContinueRanges.contains c

def isExtending (c : Char) : Bool := isAnyCategory [5, 7] c || otherExtendRanges.contains c

def isOfScript (name : String) (c : Char) : Bool := (script? name).any (· c)

def isUnified (c : Char) : Bool :=
  isCategory 4 c && isOfScript "han" c && !compatibilityRanges.contains c

def isIdeographic (c : Char) : Bool :=
  (isAnyCategory [4, 9] c && isOfScript "han" c && c.toNat != 0x303c) ||
    (isCategory 4 c && (isOfScript "tangut" c || isOfScript "nushu" c)) ||
    isOfScript "khitansmallscript" c || c.toNat == 0x3006

def computedProperty? (name : String) : Option (Char → Bool) :=
  match name with
  | "math" => some isMath
  | "idstart" | "ids" => some isStart
  | "idcontinue" | "idc" => some isContinue
  | "xidstart" | "xids" => some fun c ↦
      isStart c && !unstableRanges.contains c && !unstableStartRanges.contains c
  | "xidcontinue" | "xidc" => some fun c ↦ isContinue c && !unstableRanges.contains c
  | "graphemeextend" | "grext" => some isExtending
  | "graphemebase" | "grbase" => some fun c ↦
      !isAnyCategory [23, 24, 25, 26, 27, 28, 29] c && !isExtending c
  | "ideographic" | "ideo" => some isIdeographic
  | "unifiedideograph" | "uideo" => some isUnified
  | _ => none

def rangeProperty? (name : String) : Option (Char → Bool) :=
  (namedRanges.find? (·.1.contains name)).map fun p c ↦ p.2.contains c

end Rulebook.Pattern
