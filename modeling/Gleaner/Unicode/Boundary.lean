import Gleaner.Unicode.CodeRanges

/-!
# What characters mean for boundaries in texts

The classes of characters that decide where user-perceived characters, words and sentences end, in
version 16 of Unicode.
-/

namespace Gleaner.Unicode.Boundary

/-- How many groups of syllables with a common vowel there are. -/
def syllableGroups : Nat := 399

/-- The Korean syllables that end in a vowel: the first one of each group of 28. -/
def openSyllables : CodeRanges :=
  ⟨(List.range syllableGroups).map fun n => (0xAC00 + 28 * n, 0xAC00 + 28 * n)⟩

/-- The Korean syllables that end in a consonant: the others of each group. -/
def closedSyllables : CodeRanges :=
  ⟨(List.range syllableGroups).map fun n => (0xAC01 + 28 * n, 0xAC1B + 28 * n)⟩

/-- Classes for the boundaries of user-perceived characters. -/
def grapheme : List NamedRanges :=
  [⟨["CR"], .ofLines
    ["d"]⟩,
   ⟨["CN", "Control"], .ofLines
    ["0,a 1,2 1,i 2n,x d 12m 3jl 1ks 2,2 o,7 1d,g 17yn 6o,c ab8,g qxs,4 43z,8 h405,w 2o,3k",
     "6o,2s0"]⟩,
   ⟨["EX", "Extend"], .ofLines
    ["lc,34 7n,7 7b,19 1 1,2 1,2 1 20,b 1c,l g 2t,7 2,6 2,2 1,4 z u,r 2j,b 1m,9 9 o,4 1,9 1,3",
     "1,5 17,3 1n,9 16,o 1,w 1j 1 4,8 4 3,7 a,2 t 1m 1 2,4 8 9 a,2 q 2,2 1l 4,2 4,2 2,3 3 u,2 3",
     "b,2 1l 4,5 1,2 4 k,2 m,6 1 1m 1,2 1,4 8 7,3 a,2 u 1n 1 c 9 14 3 1j 1,3 5,3 1,4 7,2 b,2 t",
     "1m 2,2 1 3,3 1,4 7,2 b,2 s,2 1l,2 1 2,4 8 9 a,2 t 20 4 2,3 1 8 29 2,7 c,8 2q 2,9 b,7 21,2",
     "r 1 1 1j,e 1,5 1,2 5,b 1,10 9 2u,4 1,6 1,2 2,2 p,2 4,3 g,4 d 2,2 6 f jj,3 qa,4 s,3 t,2 u,2",
     "1s,2 1,7 8 2,b 9 19,3 1 39,2 y 3a,3 4,2 9 6,3 63,2 2 1m 1,7 1 1 2,8 6,a 2 1c,v 1d,4 1c,a",
     "4,3 12,9 c,2 w,4 2,6 1k 1,2 3 1,5 1k,8 2,2 48,3 1,d 1,7 4 6 3,2 5i,1s ek 5f,x 2da,3 3x",
     "2o,w fe,6 2x,2 n9w,4 1,a w,2 28,2 7k 3 4 p,2 5 47,2 q,i d 12,8 p,b 1 18,3 1c 2,4 2,2 2 10",
     "1v,6 2,2 2,2 c 8 1b 1f 1,3 2,2 5,2 1 16,2 8 6m 2 4 fn4 kh,g g,g a6,2 gt 6a 45,5 1ae,3 1,2",
     "5,4 14,3 4 4l,2 fx,4 1t,5 8t,2 27,4 1y,b 1d,4 3f 1i,f 15 2,2 a,3 1d,4 2,2 7 1p,3 10,5 1,8",
     "1q c,2 1g,9 1 8,4 2 2n,3 2,4 6 2 4d 3,8 l,2 1l,2 1 1 c 9 e,7 3,5 1v 2,6 1 2 1,3 4,3 1 e,2",
     "2d,8 2,3 1 n 29 2,6 1 2 1,2 1,2 6j 2,4 6,2 1,2 r,2 2d,8 2 1,2 2y 1 2,8 2t 1 2,4 1,5 77,9",
     "1,2 6t a,4 4 40,4 2,2 4 w,a 14,6 2,4 8 9,6 2,3 1a,d 1,2 ba,7 1,6 1 2a,m 2,7 1,2 1,2 3e,6 3",
     "1,2 1,7 1 20,2 3 1 9n,2 b,2 1g,5 5,3 n 44l 6,f 8ug,c 3,3 1xc,5 1n,7 t4 1r,4 29 b,2 f57,2",
     "3mp,1a 2,n f2,5 3,6 8,8 2,7 u,4 44,3 1iz,1j 4,1e 8 e m,5 1,f 11s,7 1,h 2,7 1,2 1,5 2s 4g,7",
     "af 1p,4 e4,4 72,2 kg,7 31,7 240,5 gx7k,2o 3k,6o"]⟩,
   ⟨["L"], .ofLines
    ["3cw,2o u0w,t"]⟩,
   ⟨["LF"], .ofLines
    ["a"]⟩,
   ⟨["LV"], openSyllables⟩,
   ⟨["LVT"], closedSyllables⟩,
   ⟨["PP", "Prepend"], .ofLines
    ["16o,6 5z 1d ao,2 28 vf 1f8u f 6s,2 el 12l 1 6w 21,6 jg cb"]⟩,
   ⟨["RI", "Regional_Indicator"], .ofLines
    ["2qcm,q"]⟩,
   ⟨["SM", "SpacingMark"], .ofLines
    ["1s3 1j 2,3 8,4 1,2 1e,2 1n,2 6,2 2,2 1i 1m,3 1u 1m,3 8 1,2 1h,2 1o 6,2 2,2 36 1,2 3,3 1,3",
     "1g,3 1p,4 1p,2 1m 2 1,2 1a e,2 1n,2 5,3 1,3 1h,2 24,2 6,7 j,2 1r 3j 3u,2 1r 4x 9,2 p,2 18",
     "1f5 7,8 1,2 9m,4 2,3 4,2 1,6 68,2 1m 1 l,6 41 1l,4 1s u 4,2 1r 2,3 1 1h,8 8,2 4r l rhn,2 2",
     "2g,2 1e,g 3y 1c 1c,2 4,2 2,2 33,2 2,2 o 4d 2,2 5 6l,2 1,2 1,2 1 jrn 1 3j 19,3 4,2 37 o,2",
     "1n 1c,3 9 e 2l,3 3,2 4s,3 v,2 1n 1,4 2,2 2,2 l,2 2d,2 f 1,2 2v,3 8,2 3 2z,2 6 1,2 1 2 6m,2",
     "6,4 2 35,3 8,2 1 31 1,2 32 7 79,3 9 6w,5 1,2 7 1 3y,3 8,4 4 2c t,2 1q bb e 2y 7 2 5x,5 4,2",
     "1 9q,2 c 1c,2 8,2 d0q,3 2sk,1j"]⟩,
   ⟨["T"], .ofLines
    ["3hk,2g 132j,1d"]⟩,
   ⟨["V"], .ofLines
    ["3fk,20 1348,n tjw 3,4"]⟩,
   ⟨["ZWJ"], .ofLines
    ["6bx"]⟩]

/-- Classes for the boundaries of words. -/
def word : List NamedRanges :=
  [⟨["LE", "ALetter"], .ofLines
    ["1t,q 6,q 1b a 4 5,n 1,v 1,dc 6,y 34,5 1,2 2,4 1 6 1,3 1 1,k 1,2b 1,3v 8,4m 1,12 2,4 1 1,15",
     "1 2w 18,17 z,2 1,2r 1 f,2 7,2 a,3 2 f,2 1,u t,2h b o,x 9,2 4 5,m 4 9 3 n,p 7,b 5,o 1,6",
     "h,16 1m,1i 3 i 7,a f,g 4,8 2,2 2,m 1,7 1 3,4 3 g d,2 1,3 e,2 a 8,6 4,2 2,m 1,7 1,2 1,2 1,2",
     "v,4 1 j,3 g,9 1,3 1,m 1,7 1,2 1,5 3 i f,2 n b,8 2,2 2,m 1,7 1,2 1,5 3 u,2 1,3 f h 1,6 3,3",
     "1,4 3,2 1 1,2 3,2 3,3 3,c m 1g,8 1,3 1,n 1,g 3 q,3 2 2,2 u 4,8 1,3 1,n 1,a 1,5 3 v,2 1,2",
     "f,2 h,9 1,3 1,15 2 g 5,3 8,3 o,6 5,i 3,o 1,9 1 2,7 8p 1r,8 1,10 r,5 7n,12 1 5 2,17 1,99",
     "1,4 2,7 1 1,4 2,15 1,4 2,x 1,4 2,7 1 1,4 2,f 1,1l 1,4 2,1v 11,g g,2e 2,6 3,h8 2,h 1,q 5,23",
     "3,b 7,i d,j e,i e,d 1,3 4v,2h 7,5 2,y 1 5,1y a,v 69,n 6m,1b h,8 1i,u d,2 a,18 q,10 15,3",
     "a,10 2,b 5,17 2,3 15,4 1,6 1,2 3 5,5c 1s,7q 2,6 2,12 2,6 2,8 1 1 1 1,v 2,1h 1,7 1 3,3 1,7",
     "3,4 2,6 4,d 5,3 1,7 38 d g,d 2t 4 2,a 1 3,5 6 1 1 1,4 1,b 2,4 5,5 4 h,15 ml,1g 1ee,6d 6,4",
     "3,2 c,12 1 5 2,1k 7 g,n 9,7 1,7 1,7 1,7 1,7 1,7 1,7 1,7 28 d1 1h,2 5k,17 1,2m h,w ls0,wd",
     "1v,1a 2,7h 3,g a,2 k,1b g,v 2,28 o,5i 2,2 1 1,8 l,g 1,3 1,4 1,n t,1g e,1e 1q,6 3 1,2 b,s",
     "a,n p,t 7,1b s 1c,15 n,3 1,8 44,b 7,3 c,6 2,6 2,6 9,7 1,7 1,1m 6,37 t,8mc c,n 4,1d 6x0,7",
     "c,5 1k,2q x,a3 i,1s 2,1i 14,c 38,5 1,3r 10,q 6,q 1x,v 3,6 2,6 2,6 2,3 z,c 1,q 1,j 1,2 1,f",
     "2,e y,3f 1x,1h 7f,t 3,1d 1b,w d,u 5,12 a,u 2,10 4,8 1,5 16,4e i,10 4,10 4,14 8,1g c,b 1,f",
     "1,7 1,2 1,b 1,f 1,7 1,2 3,1g c,8n 9,m a,8 o,6 1,16 1,9 1x,6 2 1,18 1,2 3 2,n a,n 9,v 1t,j",
     "1,2 a,m a,q 1y,1k 6,2 1s f,4 1,3 1,t 16,t 3,t z,8 1,s r,1i a,m a,j d,i 32,21 1j,1f d,1f",
     "d,10 12,s 9,n 6y,16 6,2 g,3 1n,t a 8,m 16,i 1a,l r,n c,1h 1l,2 2 d,19 w,p q,10 t 2 8,z 3",
     "c,1c e,4 l 1 z,i 1,p j,2 1r,7 1 1,4 1,f 1,a 7,1b 12,8 2,2 2,m 1,7 1,2 1,5 3 i c,5 u,a 1 2",
     "1,12 1 p 1 18,1h i,4 k,3 u,1c k,2 1 54,1b 15,4 10,1c k 1n,17 d 93,18 38,1s v,8 2 2,8 1,2",
     "1,o f 1 2m,8 2,13 g 1 s a,14 7 l b,1a j i,21 5j,x v,9 1,11 h 1d,u 34,7 1,2 1,12 l p,6 1,2",
     "1,w e 93,j f 1,d 1,y 3g 27,pm 2u,33 h,5g 218,2p f,ts h,6 p,32z 5,g7 5a1,u 1cy,ft 7,v h,27",
     "h,u i,1c g,4 v,l 5,j c0,19 5v,1s 3k,23 5 1u,d 1s,2 1 f18,2z 5,d 3,9 7,a 4me,2d 1,1z 1,2 2",
     "2,2 2,4 1,c 1 1,7 1,1t 1,4 2,8 1,7 1,s 1,4 1,5 1 3,7 1,9g 2,p 1,p 1,v 1,p 1,v 1,p 1,v 1,p",
     "1,v 1,p 1,8 1f8,v 6,6 79,1q 42,19 a,7 g 8x,u i,18 dg,s 6c,u 2 dr,7 1,4 1,2 1,f 1,5h 1n,1w",
     "7 xg,4 1,r 1,2 1 2 1,a 1,4 1 1 6 4 1 1 1,3 1,2 1 2 1 1 1 1 1,2 1 2,4 1,7 1,4 1,4 1 1,a 1,h",
     "5,3 1,5 1,h hg,q 6,q 6,q"]⟩,
   ⟨["CR"], .ofLines
    ["d"]⟩,
   ⟨["DQ", "Double_Quote"], .ofLines
    ["y"]⟩,
   ⟨["Extend"], .ofLines
    ["lc,34 7n,7 7b,19 1 1,2 1,2 1 20,b 1c,l g 2t,7 2,6 2,2 1,4 z u,r 2j,b 1m,9 9 o,4 1,9 1,3",
     "1,5 17,3 1n,9 16,o 1,x 1i,3 1,i 1,7 a,2 t,3 1k 1,7 2,2 2,3 9 a,2 q 2,3 1k 1,5 4,2 2,3 3",
     "u,2 3 b,3 1k 1,8 1,3 1,3 k,2 m,6 1,3 1k 1,7 2,2 2,3 7,3 a,2 u 1n,5 3,3 1,4 9 14,5 1j 1,7",
     "1,3 1,4 7,2 b,2 t,3 1k 1,7 1,3 1,4 7,2 b,2 f c,4 1j,2 1,7 1,3 1,4 9 a,2 t,3 1y 4,6 1 1,8",
     "i,2 1p 2,7 c,8 2q 2,9 b,7 21,2 r 1 1 4,2 1d,k 1,2 5,b 1,10 9 2s,k n,4 4,3 1,3 2,7 3,4 d,c",
     "1 a,4 jj,3 qa,4 s,3 t,2 u,2 1s,w 9 19,3 1 39,2 y 3a,c 4,c 63,5 1l,a 1,t 2 1c,v 1d,5 1b,h",
     "12,9 c,3 u,d 1k,e 1c,k 48,3 1,l 4 6 2,3 5i,1s ek 5f,x 2da,3 3x 2o,w fe,6 2x,2 n9w,4 1,a",
     "w,2 28,2 7k 3 4 n,5 4 2b,2 1e,i q,i d 12,8 p,d 18,4 1b,e 10 1v,e c 8,2 19,3 1e 1,3 2,2 5,2",
     "1 15,5 5,2 6k,8 1,2 fn4 kh,g g,g a6,2 gt 6a 45,5 1ae,3 1,2 5,4 14,3 4 4l,2 fx,4 1t,5 8t,2",
     "27,4 1y,b 1d,4 3e,3 1h,f 15 2,2 a,4 19,b 7 1p,3 10,e g,2 18 c,3 1c,e 8,4 1,2 2k,c 6 2 4d,c",
     "l,4 1j,2 1,7 2,2 2,3 9 a,2 2,7 3,5 1v,9 1 2 1,4 1,5 1 e,2 2a,i n 29,k 6j,7 2,9 r,2 2a,h",
     "2y,d 2t,f 74,f 6t,6 1,2 2,4 1 1,2 3x,7 2,7 3 s,a 14,7 1,4 8 9,b 1a,g b9,8 1,8 2a,m 1,e",
     "3e,6 3 1,2 1,7 1 1u,5 1,2 1,5 9n,4 9,2 1 1c,7 3,5 n 44l 6,f 8ug,i 1xc,5 1n,7 t4 1,1j 7,4",
     "29 b,2 f57,2 3mp,1a 2,n f2,5 3,6 8,8 2,7 u,4 44,3 1iz,1j 4,1e 8 e m,5 1,f 11s,7 1,h 2,7",
     "1,2 1,5 2s 4g,7 af 1p,4 e4,4 72,2 kg,7 31,7 240,5 gx7k,2o 3k,6o"]⟩,
   ⟨["EX", "ExtendNumLet"], .ofLines
    ["2n 6a7 f,2 j 17tq,2 o,3 6n"]⟩,
   ⟨["FO", "Format"], .ofLines
    ["4t 12m 3jl 1kv,2 q,5 1d,5 1,a 17yn 6x,3 ab8,g qxs,4 43z,8 h406"]⟩,
   ⟨["HL", "Hebrew_Letter"], .ofLines
    ["15c,r 4,4 1cfe 1,a 1,d 1,5 1 1,2 1,2 1,a"]⟩,
   ⟨["KA", "Katakana"], .ofLines
    ["9ip,5 2t,2 3,2j 1,4 6o,g 5s,1b 1,2g 14b2,1k ytu,4 1,7 1,2 1 7z,3 1e e,4"]⟩,
   ⟨["LF"], .ofLines
    ["a"]⟩,
   ⟨["ML", "MidLetter"], .ofLines
    ["1m 3g jz d3 44 56a 17u3 1t 5g"]⟩,
   ⟨["MN", "MidNum"], .ofLines
    ["18 e n6 ei 3m,2 2m az 4sr 17uz 3 53 e"]⟩,
   ⟨["MB", "MidNumLet"], .ofLines
    ["1a 6ax,2 a 17vx 50 6"]⟩,
   ⟨["NL", "Newline"], .ofLines
    ["b,2 3c 68y,2"]⟩,
   ⟨["NU", "Numeric"], .ofLines
    ["1c,a 152,6 2i,a 1 35 i,a 5i,a 5i,2 28 3n,a 3a,a 3a,a 3a,a 3a,a 3a,a 3a,a 3a,a 3a,a 3a,a",
     "2o,a 3a,a 1y,a 7q,a 1y,a 1fq,a 12,a 8c,a 3k,b 4l,a 6,a 52,a 2e,a 3q,a 6,a r7q,a iu,a 12,a",
     "5i,a m,a 2e,a ba,a geu,a 13a,a 1om,a 6,a m4,a 25 f y,a 1o,a 40,a 7q,a 9i,a 3a,a ae,a 2u,a",
     "6,k 24,a bq,a 2u,a ie,a 2e,a 6u,a 1y,a bq,a d06,a 1t2,a 2e,a 3q,a eu,a iuu,a 250,1e 1ts,a",
     "bq,a dy,a 6v,a np,a 3o6,a"]⟩,
   ⟨["RI", "Regional_Indicator"], .ofLines
    ["2qcm,q"]⟩,
   ⟨["SQ", "Single_Quote"], .ofLines
    ["13"]⟩,
   ⟨["WSegSpace"], .ofLines
    ["w 4f3 1vj,7 1,3 2c 334"]⟩,
   ⟨["ZWJ"], .ofLines
    ["6bx"]⟩]

/-- Classes for the boundaries of sentences. -/
def sentence : List NamedRanges :=
  [⟨["AT", "ATerm"], .ofLines
    ["1a 6b9 17vx 57"]⟩,
   ⟨["CR"], .ofLines
    ["d"]⟩,
   ⟨["CL", "Close"], .ofLines
    ["y 4,3 1d 1 t 1 19 f 2v2,4 1gd,2 1vf,8 p,2 a,2 1i,2 e,2 hl,4 t,2 ts,6 7,e 27,2 v,a b7,m",
     "1r,4 w,2 si,e e,2 2,a o i,8 bv,a 2,8 1,3 14im,2 5z,2 s,g 2,2 g,6 4p,2 1d 1 t 1 1,2 1,2",
     "1csy,3"]⟩,
   ⟨["EX", "Extend"], .ofLines
    ["lc,34 7n,7 7b,19 1 1,2 1,2 1 20,b 1c,l g 2t,7 2,6 2,2 1,4 z u,r 2j,b 1m,9 9 o,4 1,9 1,3",
     "1,5 17,3 1n,9 16,o 1,x 1i,3 1,i 1,7 a,2 t,3 1k 1,7 2,2 2,3 9 a,2 q 2,3 1k 1,5 4,2 2,3 3",
     "u,2 3 b,3 1k 1,8 1,3 1,3 k,2 m,6 1,3 1k 1,7 2,2 2,3 7,3 a,2 u 1n,5 3,3 1,4 9 14,5 1j 1,7",
     "1,3 1,4 7,2 b,2 t,3 1k 1,7 1,3 1,4 7,2 b,2 f c,4 1j,2 1,7 1,3 1,4 9 a,2 t,3 1y 4,6 1 1,8",
     "i,2 1p 2,7 c,8 2q 2,9 b,7 21,2 r 1 1 4,2 1d,k 1,2 5,b 1,10 9 2s,k n,4 4,3 1,3 2,7 3,4 d,c",
     "1 a,4 jj,3 qa,4 s,3 t,2 u,2 1s,w 9 19,3 1 39,2 y 3a,c 4,c 63,5 1l,a 1,t 2 1c,v 1d,5 1b,h",
     "12,9 c,3 u,d 1k,e 1c,k 48,3 1,l 4 6 2,3 5i,1s ek,2 5e,x 2da,3 3x 2o,w fe,6 2x,2 n9w,4 1,a",
     "w,2 28,2 7k 3 4 n,5 4 2b,2 1e,i q,i d 12,8 p,d 18,4 1b,e 10 1v,e c 8,2 19,3 1e 1,3 2,2 5,2",
     "1 15,5 5,2 6k,8 1,2 fn4 kh,g g,g a6,2 gt 6a 45,5 1ae,3 1,2 5,4 14,3 4 4l,2 fx,4 1t,5 8t,2",
     "27,4 1y,b 1d,4 3e,3 1h,f 15 2,2 a,4 19,b 7 1p,3 10,e g,2 18 c,3 1c,e 8,4 1,2 2k,c 6 2 4d,c",
     "l,4 1j,2 1,7 2,2 2,3 9 a,2 2,7 3,5 1v,9 1 2 1,4 1,5 1 e,2 2a,i n 29,k 6j,7 2,9 r,2 2a,h",
     "2y,d 2t,f 74,f 6t,6 1,2 2,4 1 1,2 3x,7 2,7 3 s,a 14,7 1,4 8 9,b 1a,g b9,8 1,8 2a,m 1,e",
     "3e,6 3 1,2 1,7 1 1u,5 1,2 1,5 9n,4 9,2 1 1c,7 3,5 n 44l 6,f 8ug,i 1xc,5 1n,7 t4 1,1j 7,4",
     "29 b,2 f57,2 3mp,1a 2,n f2,5 3,6 8,8 2,7 u,4 44,3 1iz,1j 4,1e 8 e m,5 1,f 11s,7 1,h 2,7",
     "1,2 1,5 2s 4g,7 af 1p,4 e4,4 72,2 kg,7 31,7 gzbp,2o 3k,6o"]⟩,
   ⟨["FO", "Format"], .ofLines
    ["4t 12m 6q 3cu 1ks 2,2 q,5 1d,5 1,a 17yn 6x,3 ab8,g qxs,4 43z,8 h406"]⟩,
   ⟨["LF"], .ofLines
    ["a"]⟩,
   ⟨["LO", "Lower"], .ofLines
    ["2p,q 1b a 4 10,o 1,8 1 1 1 1 1 1 1 1 1 1 1 1 1 1 1 1 1 1 1 1 1 1 1 1 1 1 1 1,2 1 1 1 1 1 1",
     "1 1,2 1 1 1 1 1 1 1 1 1 1 1 1 1 1 1 1 1 1 1 1 1 1 1 2 1 1,3 2 1 2 3,2 4 2 3,3 2 2 1 1 2",
     "1,2 1 2 3 1 2,2 2,3 6 2 2 1 1 1 1 1 1 1 1,2 1 1 1 1 1 1 1 1 1,2 2 1 3 1 1 1 1 1 1 1 1 1 1",
     "1 1 1 1 1 1 1 1 1 1 1 1 1 1 1 1 1 1 1,7 2 2,2 1 4 1 1 1 1,1x 1,10 7,2 u,5 3w 1 3 2,4 i r,z",
     "1,2 3,3 1 1 1 1 1 1 1 1 1 1 1 1,5 1 2 2,2 1f,1c 1 1 1 1 1 1 1 1 1 1 1 1 1 1 1 1 1 9 1 1 1",
     "1 1 1 1 1 1 1 1 1 1 1 1 1 1 1 1 1 1 1 1 1 1 1 2 1 1 1 1 1 1,2 1 1 1 1 1 1 1 1 1 1 1 1 1 1",
     "1 1 1 1 1 1 1 1 1 1 1 1 1 1 1 1 1 1 1 1 1 1 1 1 1 1 1 1 1 1 1 1 1 1 1c,15 29f l7,6 1oi,9 1",
     "39,5c 1t 1 1 1 1 1 1 1 1 1 1 1 1 1 1 1 1 1 1 1 1 1 1 1 1 1 1 1 1 1 1 1 1 1 1 1 1 1 1 1 1 1",
     "1 1 1 1 1 1 1 1 1 1 1 1 1 1 1 1 1 1 1 1 1 1 1 1 1 1 1 1 1 1 1 1 1,9 1 1 1 1 1 1 1 1 1 1 1",
     "1 1 1 1 1 1 1 1 1 1 1 1 1 1 1 1 1 1 1 1 1 1 1 1 1 1 1 1 1 1 1 1 1 1 1 1 1 1,9 8,6 a,8 8,8",
     "8,6 a,8 8,8 8,e 2,8 8,8 8,8 8,5 1,2 6 3,3 1,2 8,4 2,2 8,8 a,3 1,2 3d d g,d 31 3,2 3 r 4 4",
     "2,2 8,4 4 x,g 4 nf,q 1fq,1c 1 3,2 1 1 1 4 1,2 1,8 3 1 1 1 1 1 1 1 1 1 1 1 1 1 1 1 1 1 1 1",
     "1 1 1 1 1 1 1 1 1 1 1 1 1 1 1 1 1 1 1 1 1 1 1 1 1 1 1 1 1 1,2 7 1 4 c,12 1 5 nwz 1 1 1 1 1",
     "1 1 1 1 1 1 1 1 1 1 1 1 1 1 1 1 1 j 1 1 1 1 1 1 1 1 1 1 1 1 1,3 3p 1 1 1 1 1 1,3 1 1 1 1 1",
     "1 1 1 1 1 1 1 1 1 1 1 1 1 1 1 1 1 1 1 1 1 1 1 1 1 1,a 1 1 2 1 1 1 1 4 1 2 1,3 1 1 1 1 1 1",
     "1 1 1 1 5 5 1 1 1 1 1 1 1 4 1 2 3 1 1 1 1 1 m,3 1 1,3 mt,17 1,e 6,28 fnk,7 c,5 tl,q y5,14",
     "3s,10 4b,b 1,f 1,7 1,2 cj 2,3 1,16 1,9 zp,1f 3h,m 27u,w gw0,w k2i,q q,7 1,i q,q q,4 1 1,7",
     "1,b q,q q,q q,q q,q q,q q,q q,q q,q q,s s,p 1,6 q,p 1,6 q,p 1,6 q,p 1,6 q,p 1,6 1 1f8,a",
     "1,k 6,6 79,1q 1pw,y"]⟩,
   ⟨["NU", "Numeric"], .ofLines
    ["1c,a 152,6 2i,a 1,2 34 i,a 5i,a 5i,2 28 3n,a 3a,a 3a,a 3a,a 3a,a 3a,a 3a,a 3a,a 3a,a 3a,a",
     "2o,a 3a,a 1y,a 7q,a 1y,a 1fq,a 12,a 8c,a 3k,b 4l,a 6,a 52,a 2e,a 3q,a 6,a r7q,a iu,a 12,a",
     "5i,a m,a 2e,a ba,a geu,a 13a,a 1om,a 6,a m4,a 25 f y,a 1o,a 40,a 7q,a 9i,a 3a,a ae,a 2u,a",
     "6,k 24,a bq,a 2u,a ie,a 2e,a 6u,a 1y,a bq,a d06,a 1t2,a 2e,a 3q,a eu,a iuu,a 250,1e 1ts,a",
     "bq,a dy,a 6v,a np,a 3o6,a"]⟩,
   ⟨["LE", "OLetter"], .ofLines
    ["cb 4,4 5s 10,7 6,c q 1 3p dg 3a,r 4,5 18,17 z,2 1,2r 1 f,2 7,2 a,3 2 g 1,u t,2h b o,x 9,2",
     "4 5,m 4 9 3 n,p 7,b 5,o 1,6 h,16 1m,1i 3 i 7,a f,g 4,8 2,2 2,m 1,7 1 3,4 3 g d,2 1,3 e,2 a",
     "8,6 4,2 2,m 1,7 1,2 1,2 1,2 v,4 1 j,3 g,9 1,3 1,m 1,7 1,2 1,5 3 i f,2 n b,8 2,2 2,m 1,7",
     "1,2 1,5 3 u,2 1,3 f h 1,6 3,3 1,4 3,2 1 1,2 3,2 3,3 3,c m 1g,8 1,3 1,n 1,g 3 q,3 2 2,2 u",
     "4,8 1,3 1,n 1,a 1,5 3 v,2 1,2 f,2 h,9 1,3 1,15 2 g 5,3 8,3 o,6 5,i 3,o 1,9 1 2,7 1m,1c 1,2",
     "c,7 1m,2 1 1,5 1,o 1 1,a 1,2 9 2,5 1 l,4 w 1r,8 1,10 r,5 37,17 k g,6 4,4 3 3,2 7,3 4,d c",
     "1t,17 2,98 1,4 2,7 1 1,4 2,15 1,4 2,x 1,4 2,7 1 1,4 2,f 1,1l 1,4 2,1v 11,g 35,h8 2,h 1,q",
     "5,23 3,b 7,i d,j e,i e,d 1,3 f,1g z 4 1v,2h 7,5 2,y 1 5,1y a,v 1d,u 2,5 b,18 4,q 1i,n 9,1h",
     "2a 2l,1b h,8 1i,u d,2 a,18 q,10 15,3 a,10 i,17 2,3 15,4 1,6 1,2 3 u2,4 1z,3 2,4 2av,1k 7",
     "g,n 9,7 1,7 1,7 1,7 1,7 1,7 1,7 1,7 28 d1,3 p,9 7,5 2,5 4,2e 6,3 1,2i 1,4 5,17 1,2m h,w",
     "1c,g e8,534 1s,h3h 1v,1a 2,7h 3,g a,2 1u g w,28 13,9 2w 6 2v 3,7 1,3 1,4 1,n t,1g e,1e",
     "1q,6 3 1,2 b,s a,n p,t 7,1b s g,5 1,a a,5 1,15 n,3 1,8 k,n 3 3,1e 1 3,2 2,5 2 1 o,3 2,b",
     "7,3 c,6 2,6 2,6 9,7 1,7 41,z t,8mc c,n 4,1d 6is,a6 2,2y 1v 1,a 1,d 1,5 1 1,2 1,2 1,30 x,a3",
     "i,1s 2,1i 14,c 38,5 1,3r 2x,1k 2,v 3,6 2,6 2,6 2,3 z,c 1,q 1,j 1,2 1,f 2,e y,3f 1x,1h 7f,t",
     "3,1d 1b,w d,u 5,12 a,u 2,10 4,8 1,5 3e,26 2q,14 8,1g 2k,1g c,8n 9,m a,8 p,2 3h,6 2 1,18",
     "1,2 3 2,n a,n 9,v 1t,j 1,2 a,m a,q 1y,1k 6,2 1s f,4 1,3 1,t 16,t 3,t z,8 1,s r,1i a,m a,j",
     "d,i 32,21 53,10 12,6 v 7k,16 6,2 g,3 1n,t a 8,m 16,i 1a,l r,n c,1h 1l,2 2 d,19 w,p q,10 t",
     "2 8,z 3 c,1c e,4 l 1 z,i 1,p j,2 1r,7 1 1,4 1,f 1,a 7,1b 12,8 2,2 2,m 1,7 1,2 1,5 3 i c,5",
     "u,a 1 2 1,12 1 p 1 18,1h i,4 k,3 u,1c k,2 1 54,1b 15,4 10,1c k 1n,17 d 1z,r 11,7 55,18",
     "5v,8 2 2,8 1,2 1,o f 1 2m,8 2,13 g 1 s a,14 7 l b,1a j i,21 5j,x v,9 1,11 h 1d,u 34,7 1,2",
     "1,12 l p,6 1,2 1,w e 93,j f 1,d 1,y 3g 27,pm 2u,33 h,5g 218,2p f,ts h,6 p,32z 5,g7 5a1,u",
     "1cy,ft 7,v h,27 h,u i,1c g,4 v,l 5,j c0,19 b7,23 5 1u,d 1s,2 1 s,4qg 8,ye 15,a 6w7,4 1,7",
     "1,2 1,83 f t,3 2 e,4 8,b0 1s4,2z 5,d 3,9 7,a 6sw dx,19 a,7 g 8x,u i,18 dg,s 6c,u 2 dr,7",
     "1,4 1,2 1,f 1,5h 3q xg,4 1,r 1,2 1 2 1,a 1,4 1 1 6 4 1 1 1,3 1,2 1 2 1 1 1 1 1,2 1 2,4 1,7",
     "1,4 1,4 1 1,a 1,h 5,3 1,5 1,h 3es,wyo w,37e 6,66 2,4g2 e,5rl f,ha 1wi,f2 15u,3t7 5,38g"]⟩,
   ⟨["SC", "SContinue"], .ofLines
    ["18,2 c,2 n6 da 4u,2 dm 361 5 1l6,2 358 14pa,2 1,2 s,2 t,2 2,2 2 a 4o,2 c,2 20"]⟩,
   ⟨["ST", "STerm"], .ofLines
    ["x t 11l 43,3 50 17,3 6u 1p 1 3,2 85,2 1d0,2 ly 4,2 lh 5i,2 4d,2 19 5 8q,2 9u,4 4i,2 a,2",
     "2,2 t,3 57,2 1t,2 qk,2 9,3 2i7,3 8i d m,2 bx n3w 7i,2 6b 3 am,2 2e,2 2n 48,2 43,3 40,2 6x",
     "g86 2,2 1r,2 4p t 1t 25w,2 zh,5 18,4 59,2 39,4 3j,3 3l,2 6 g,2 2g,2 1,2 30 8a,2 39,2 ad,2",
     "5,f 2x,2 6x,3 ed 1 6z,2 2f,2 bo,2 j8,2 22,2 euh,2 3p 1t,2 b fd,2 88 feu 5wo"]⟩,
   ⟨["SE", "Sep"], .ofLines
    ["3p 68y,2"]⟩,
   ⟨["SP", "Sp"], .ofLines
    ["9 1,2 j 3j 4bj 1vj,b 10 1b 334"]⟩,
   ⟨["UP", "Upper"], .ofLines
    ["1t,q 2t,n 1,7 x 1 1 1 1 1 1 1 1 1 1 1 1 1 1 1 1 1 1 1 1 1 1 1 1 1 1 1 2 1 1 1 1 1 1 1 2 1",
     "1 1 1 1 1 1 1 1 1 1 1 1 1 1 1 1 1 1 1 1 1 1,2 1 1 3,2 1 1,2 1,3 2,4 1,2 1,3 3,2 1,2 1 1",
     "1,2 1 2 1,2 1,3 1 1,2 3 7,2 1,2 1,2 1 1 1 1 1 1 1 1 2 1 1 1 1 1 1 1 1 2,2 1 1,3 1 1 1 1 1",
     "1 1 1 1 1 1 1 1 1 1 1 1 1 1 1 1 1 1 1 1 1 1 1 1 7,2 1,2 2 1,4 1 1 1 1 81 1 3 8 6 1,3 1 1,2",
     "1,h 1,9 z 2,3 3 1 1 1 1 1 1 1 1 1 1 1 5 2 1,2 2,1f 1c 1 1 1 1 1 1 1 1 1 1 1 1 1 1 1 1 9 1",
     "1 1 1 1 1 1 1 1 1 1 1 1 1 1 1 1 1 1 1 1 1 1 1 1 1 1,2 1 1 1 1 1 1 2 1 1 1 1 1 1 1 1 1 1 1",
     "1 1 1 1 1 1 1 1 1 1 1 1 1 1 1 1 1 1 1 1 1 1 1 1 1 1 1 1 1 1 1 1 1 1 1 1 2,12 289,12 1 5",
     "k2,2e 1oz ae 1 1 1 1 1 1 1 1 1 1 1 1 1 1 1 1 1 1 1 1 1 1 1 1 1 1 1 1 1 1 1 1 1 1 1 1 1 1 1",
     "1 1 1 1 1 1 1 1 1 1 1 1 1 1 1 1 1 1 1 1 1 1 1 1 1 1 1 1 1 1 1 1 1 1 1 9 1 1 1 1 1 1 1 1 1",
     "1 1 1 1 1 1 1 1 1 1 1 1 1 1 1 1 1 1 1 1 1 1 1 1 1 1 1 1 1 1 1 1 1 1 1 1 1 1 1 9,8 8,6 a,8",
     "8,8 8,6 b 1 1 1 8,8 o,8 8,8 8,8 8,5 b,5 b,4 c,5 b,5 79 4 3,3 2,3 2 3,5 6 1 1 1,4 2,4 a,2 5",
     "q,g j mq,q 1f4,1c 1c 1,3 2 1 1 1,4 1 2 8,3 1 1 1 1 1 1 1 1 1 1 1 1 1 1 1 1 1 1 1 1 1 1 1 1",
     "1 1 1 1 1 1 1 1 1 1 1 1 1 1 1 1 1 1 1 1 1 1 1 1 1 8 1 4 nyl 1 1 1 1 1 1 1 1 1 1 1 1 1 1 1",
     "1 1 1 1 1 1 1 j 1 1 1 1 1 1 1 1 1 1 1 1 1 3r 1 1 1 1 1 1 3 1 1 1 1 1 1 1 1 1 1 1 1 1 1 1 1",
     "1 1 1 1 1 1 1 1 1 1 1 1 1 1 a 1 1,2 1 1 1 1 4 1 2 1 3 1 1 1 1 1 1 1 1 1 1,5 1,5 1 1 1 1 1",
     "1 1 1,4 1 1,2 3 5 1 1 1 o h7v,q xx,14 3s,10 4c,b 1,f 1,7 1,2 1d6,1f 4d,m 27u,w gw0,w k2o,q",
     "q,q q,q q 1,2 2 2,2 2,4 1,8 q,q q,2 1,4 2,8 1,7 r,2 1,4 1,5 1 3,7 r,q q,q q,q q,q q,q q,q",
     "u,p x,p x,p x,p x,p x 3ed,y 1la,q 6,q 6,q"]⟩]

end Gleaner.Unicode.Boundary
