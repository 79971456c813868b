import Gleaner.Unicode.CodeRanges

/-!
# General categories of Unicode

The general categories that are assigned to characters, in version 16 of Unicode. Unassigned code
points and surrogates are the rest of the code space.
-/

namespace Gleaner.Unicode.Category

/-- Uppercase letters. -/
def uppercaseLetter : CodeRanges := .ofLines
    ["1t,q 2t,n 1,7 x 1 1 1 1 1 1 1 1 1 1 1 1 1 1 1 1 1 1 1 1 1 1 1 1 1 1 1 2 1 1 1 1 1 1 1 2 1",
     "1 1 1 1 1 1 1 1 1 1 1 1 1 1 1 1 1 1 1 1 1 1,2 1 1 3,2 1 1,2 1,3 2,4 1,2 1,3 3,2 1,2 1 1",
     "1,2 1 2 1,2 1,3 1 1,2 3 7 2 2 2 1 1 1 1 1 1 1 2 1 1 1 1 1 1 1 1 2 2 1,3 1 1 1 1 1 1 1 1 1",
     "1 1 1 1 1 1 1 1 1 1 1 1 1 1 1 1 1 1 1 1 7,2 1,2 2 1,4 1 1 1 1 81 1 3 8 6 1,3 1 1,2 1,h 1,9",
     "z 2,3 3 1 1 1 1 1 1 1 1 1 1 1 5 2 1,2 2,1f 1c 1 1 1 1 1 1 1 1 1 1 1 1 1 1 1 1 9 1 1 1 1 1",
     "1 1 1 1 1 1 1 1 1 1 1 1 1 1 1 1 1 1 1 1 1 1,2 1 1 1 1 1 1 2 1 1 1 1 1 1 1 1 1 1 1 1 1 1 1",
     "1 1 1 1 1 1 1 1 1 1 1 1 1 1 1 1 1 1 1 1 1 1 1 1 1 1 1 1 1 1 1 1 2,12 289,12 1 5 k2,2e 1oz",
     "6,17 2,3 8w 1 1 1 1 1 1 1 1 1 1 1 1 1 1 1 1 1 1 1 1 1 1 1 1 1 1 1 1 1 1 1 1 1 1 1 1 1 1 1",
     "1 1 1 1 1 1 1 1 1 1 1 1 1 1 1 1 1 1 1 1 1 1 1 1 1 1 1 1 1 1 1 1 1 1 1 9 1 1 1 1 1 1 1 1 1",
     "1 1 1 1 1 1 1 1 1 1 1 1 1 1 1 1 1 1 1 1 1 1 1 1 1 1 1 1 1 1 1 1 1 1 1 1 1 1 1 9,8 8,6 a,8",
     "8,8 8,6 b 1 1 1 8,8 20,4 c,4 c,4 c,5 b,4 7a 4 3,3 2,3 2 3,5 6 1 1 1,4 2,4 a,2 5 1p 22k,1c",
     "1c 1,3 2 1 1 1,4 1 2 8,3 1 1 1 1 1 1 1 1 1 1 1 1 1 1 1 1 1 1 1 1 1 1 1 1 1 1 1 1 1 1 1 1 1",
     "1 1 1 1 1 1 1 1 1 1 1 1 1 1 1 1 8 1 4 nyl 1 1 1 1 1 1 1 1 1 1 1 1 1 1 1 1 1 1 1 1 1 1 j 1",
     "1 1 1 1 1 1 1 1 1 1 1 1 3r 1 1 1 1 1 1 3 1 1 1 1 1 1 1 1 1 1 1 1 1 1 1 1 1 1 1 1 1 1 1 1 1",
     "1 1 1 1 1 a 1 1,2 1 1 1 1 4 1 2 1 3 1 1 1 1 1 1 1 1 1 1,5 1,5 1 1 1 1 1 1 1 1,4 1 1,2 3 5",
     "1 1 1 o h7v,q xx,14 3s,10 4c,b 1,f 1,7 1,2 1d6,1f 4d,m 27u,w gw0,w k2o,q q,q q,q q 1,2 2",
     "2,2 2,4 1,8 q,q q,2 1,4 2,8 1,7 r,2 1,4 1,5 1 3,7 r,q q,q q,q q,q q,q q,q u,p x,p x,p x,p",
     "x,p x 3ed,y"]

/-- Lowercase letters. -/
def lowercaseLetter : CodeRanges := .ofLines
    ["2p,q 1m 15,o 1,8 1 1 1 1 1 1 1 1 1 1 1 1 1 1 1 1 1 1 1 1 1 1 1 1 1 1 1 1,2 1 1 1 1 1 1 1",
     "1,2 1 1 1 1 1 1 1 1 1 1 1 1 1 1 1 1 1 1 1 1 1 1 1 2 1 1,3 2 1 2 3,2 4 2 3,3 2 2 1 1 2 1,2",
     "1 2 3 1 2,2 2,3 6 2 2 1 1 1 1 1 1 1 1,2 1 1 1 1 1 1 1 1 1,2 2 1 3 1 1 1 1 1 1 1 1 1 1 1 1",
     "1 1 1 1 1 1 1 1 1 1 1 1 1 1 1 1 1,7 2 2,2 1 4 1 1 1 1,1x 1,r 5d 1 3 3,3 i r,z 1,2 3,3 1 1",
     "1 1 1 1 1 1 1 1 1 1,5 1 2 2,2 1f,1c 1 1 1 1 1 1 1 1 1 1 1 1 1 1 1 1 1 9 1 1 1 1 1 1 1 1 1",
     "1 1 1 1 1 1 1 1 1 1 1 1 1 1 1 1 1 2 1 1 1 1 1 1,2 1 1 1 1 1 1 1 1 1 1 1 1 1 1 1 1 1 1 1 1",
     "1 1 1 1 1 1 1 1 1 1 1 1 1 1 1 1 1 1 1 1 1 1 1 1 1 1 1 1 1c,15 287,17 2,3 l4,6 1oi,9 1",
     "39,18 1r,d 1,y 2u 1 1 1 1 1 1 1 1 1 1 1 1 1 1 1 1 1 1 1 1 1 1 1 1 1 1 1 1 1 1 1 1 1 1 1 1",
     "1 1 1 1 1 1 1 1 1 1 1 1 1 1 1 1 1 1 1 1 1 1 1 1 1 1 1 1 1 1 1 1 1 1 1 1 1 1,9 1 1 1 1 1 1",
     "1 1 1 1 1 1 1 1 1 1 1 1 1 1 1 1 1 1 1 1 1 1 1 1 1 1 1 1 1 1 1 1 1 1 1 1 1 1 1 1 1 1 1,9",
     "8,6 a,8 8,8 8,6 a,8 8,8 8,e 2,8 8,8 8,8 8,5 1,2 6 3,3 1,2 8,4 2,2 8,8 a,3 1,2 7m 3,2 3 r 4",
     "4 2,2 8,4 4 1h 23v,1c 1 3,2 1 1 1 4 1,2 1,6 5 1 1 1 1 1 1 1 1 1 1 1 1 1 1 1 1 1 1 1 1 1 1",
     "1 1 1 1 1 1 1 1 1 1 1 1 1 1 1 1 1 1 1 1 1 1 1 1 1 1 1,2 7 1 4 c,12 1 5 nwz 1 1 1 1 1 1 1 1",
     "1 1 1 1 1 1 1 1 1 1 1 1 1 1 j 1 1 1 1 1 1 1 1 1 1 1 1 1 3r 1 1 1 1 1 1,3 1 1 1 1 1 1 1 1 1",
     "1 1 1 1 1 1 1 1 1 1 1 1 1 1 1 1 1 1 1 1 1 1 1,8 1 1 2 1 1 1 1 4 1 2 1,3 1 1 1 1 1 1 1 1 1",
     "1 5 5 1 1 1 1 1 1 1 4 1 2 3 1 1 1 1 1 q 3 mt,17 5,9 7,28 fnk,7 c,5 tl,q y5,14 3s,10 4b,b",
     "1,f 1,7 1,2 1dv,1f 3h,m 27u,w gw0,w k2i,q q,7 1,i q,q q,4 1 1,7 1,b q,q q,q q,q q,q q,q",
     "q,q q,q q,q q,s s,p 1,6 q,p 1,6 q,p 1,6 q,p 1,6 q,p 1,6 1 1f8,a 1,k 6,6 1yv,y"]

/-- Titlecase letters. -/
def titlecaseLetter : CodeRanges := .ofLines
    ["cl 2 2 12 5ud,8 8,8 8,8 c f 1b"]

/-- Modifier letters. -/
def modifierLetter : CodeRanges := .ofLines
    ["j4,i 4,c e,5 7 1 3p 5 da 6e 4k,2 7h,2 4 v 9 3 4g 4n yc 3j fp 1cq 2z gz cw,6 4u,1r d y,11",
     "j5 d g,d 2cf,2 6p 5b d1 17,5 5 2p,2 2l,3 lxy yq,6 7i 36 s,2 3d,9 28 n 2x,3 3,2 d1 m 3t 30",
     "l,2 2v,4 9 gli 19,2 1k0,6 1,16 1,9 13n w ij4,4 e4,3 14,2 fa,d 1s,2 1 cng,4 1,7 1,2 9ip,1q",
     "5l,7 q5 v3"]

/-- Letters without case. -/
def otherLetter : CodeRanges := .ofLines
    ["4q f 74 4,4 5s mz,r 4,4 19,w 1,a z,2 1,2r 1 o,2 a,3 2 g 1,u t,2h b o,x l,m 16,p 7,b 5,o",
     "1,6 h,15 1n,1i 3 i 7,a g,f 4,8 2,2 2,m 1,7 1 3,4 3 g d,2 1,3 e,2 a 8,6 4,2 2,m 1,7 1,2 1,2",
     "1,2 v,4 1 j,3 g,9 1,3 1,m 1,7 1,2 1,5 3 i f,2 n b,8 2,2 2,m 1,7 1,2 1,5 3 u,2 1,3 f h 1,6",
     "3,3 1,4 3,2 1 1,2 3,2 3,3 3,c m 1g,8 1,3 1,n 1,g 3 q,3 2 2,2 u 4,8 1,3 1,n 1,a 1,5 3 v,2",
     "1,2 f,2 h,9 1,3 1,15 2 g 5,3 8,3 o,6 5,i 3,o 1,9 1 2,7 1m,1c 1,2 c,6 1n,2 1 1,5 1,o 1 1,a",
     "1,2 9 2,5 n,4 w 1r,8 1,10 r,5 37,17 k g,6 4,4 3 3,2 7,3 4,d c 35,95 1,4 2,7 1 1,4 2,15 1,4",
     "2,x 1,4 2,7 1 1,4 2,f 1,1l 1,4 2,1v 11,g 35,h8 2,h 1,q 5,23 6,8 7,i d,j e,i e,d 1,3 f,1g",
     "14 1v,z 1,1h 7,5 2,y 1 5,1y a,v 1d,u 2,5 b,18 4,q 1i,n 9,1h 4w,1b h,8 1i,u d,2 a,18 q,10",
     "15,3 a,u 35,4 1,6 1,2 3 u2,4 2d3,1k o,n 9,7 1,7 1,7 1,7 1,7 1,7 1,7 1,7 fb 1h 4,2e 8 1,2i",
     "4 5,17 1,2m h,w 1c,g e8,534 1s,g7p 1,vr 1v,14 8,7g 4,g a,2 1u 1d,1y 4p 2v 3,7 1,3 1,4 1,n",
     "t,1g e,1e 1q,6 3 1,2 b,s a,n p,t 7,1b 19,5 2,9 a,5 1,15 n,3 1,8 k,g 1,6 3 3,1e 1 3,2 2,5 2",
     "1 o,2 3,b 7 e,6 2,6 2,6 9,7 1,7 41,z t,8mc c,n 4,1d 6is,a6 2,2y 1v 1,a 1,d 1,5 1 1,2 1,2",
     "1,30 x,a3 i,1s 2,1i 14,c 38,5 1,3r 2x,a 1,19 2,v 3,6 2,6 2,6 2,3 z,c 1,q 1,j 1,2 1,f 2,e",
     "y,3f at,t 3,1d 1b,w d,k 1,8 6,12 a,u 2,10 4,8 3k,26 2q,14 8,1g 2k,1g c,8n 9,m a,8 48,6 2",
     "1,18 1,2 3 2,n a,n 9,v 1t,j 1,2 a,m a,q 1y,1k 6,2 1s f,4 1,3 1,t 16,t 3,t z,8 1,s r,1i a,m",
     "a,j d,i 32,21 53,10 12,4 1 8g,16 6,2 g,3 1n,t a 8,m 16,i 1a,l r,n c,1h 1l,2 2 d,19 w,p",
     "q,10 t 2 8,z 3 c,1c e,4 l 1 z,i 1,p j,2 1r,7 1 1,4 1,f 1,a 7,1b 12,8 2,2 2,m 1,7 1,2 1,5 3",
     "i c,5 u,a 1 2 1,12 1 p 1 18,1h i,4 k,3 u,1c k,2 1 54,1b 15,4 10,1c k 1n,17 d 1z,r 11,7",
     "55,18 5v,8 2 2,8 1,2 1,o f 1 2m,8 2,13 g 1 s a,14 7 l b,1a j i,21 5j,x v,9 1,11 h 1d,u",
     "34,7 1,2 1,12 l p,6 1,2 1,w e 93,j f 1,d 1,y 3g 27,pm 6e,5g 218,2p f,ts h,6 p,32z 5,g7",
     "5a1,u 1cy,ft 7,v h,27 h,u i,1c 1f,l 5,j c3,14 b9,23 5 4v,4qg 8,ye 15,a 6wn,83 f t,3 2 e,4",
     "8,b0 1s4,2z 5,d 3,9 7,a 6sw dx,19 x 8x,u i,18 dg,r 6d,u 2 dr,7 1,4 1,2 1,f 1,5h 117,4 1,r",
     "1,2 1 2 1,a 1,4 1 1 6 4 1 1 1,3 1,2 1 2 1 1 1 1 1,2 1 2,4 1,7 1,4 1,4 1 1,a 1,h 5,3 1,5",
     "1,h 3es,wyo w,37e 6,66 2,4g2 e,5rl f,ha 1wi,f2 15u,3t7 5,38g"]

/-- Nonspacing marks. -/
def nonspacingMark : CodeRanges := .ofLines
    ["lc,34 7n,5 7d,19 1 1,2 1,2 1 20,b 1c,l g 2t,7 2,6 2,2 1,4 z u,r 2j,b 1m,9 9 o,4 1,9 1,3",
     "1,5 17,3 1n,9 16,o 1,w 1j 1 4,8 4 3,7 a,2 t 1m 4,4 8 k,2 q 2,2 1l 4,2 4,2 2,3 3 u,2 3 b,2",
     "1l 4,5 1,2 4 k,2 m,6 1 1m 2 1,4 8 7,2 b,2 u 1p c 1e 3 1j 1,3 5,3 1,4 7,2 b,2 t 1m 2 6 5,2",
     "k,2 s,2 1l,2 4,4 8 k,2 t 20 7,3 1 2i 2,7 c,8 2q 2,9 b,7 21,2 r 1 1 1j,e 1,5 1,2 5,b 1,10 9",
     "2u,4 1,6 1,2 2,2 p,2 4,3 g,4 d 2,2 6 f jj,3 qa,3 t,2 u,2 u,2 1s,2 1,7 8 2,b 9 19,3 1 39,2",
     "y 3a,3 4,2 9 6,3 63,2 2 1m 1,7 1 1 2,8 6,a 2 1c,e 1,g 1d,4 1c 1,5 1 5 14,9 c,2 w,4 2,2 1,3",
     "1k 1,2 3 1,3 1m,8 2,2 48,3 1,d 1,7 4 6 3,2 5i,1s k0,d 4 3,c 2da,3 3x 2o,w fe,4 2z,2 n9w",
     "4,a w,2 28,2 7k 3 4 p,2 5 47,2 q,i d 12,8 p,b 1a,3 1c 2,4 2,2 13 1v,6 2,2 2,2 c 8 1b 1f",
     "1,3 2,2 5,2 1 16,2 8 6m 2 4 fn4 kh,g g,g r1 6a 45,5 1ae,3 1,2 5,4 14,3 4 4l,2 fx,4 1t,5",
     "8t,2 27,4 1y,b 1d,4 3f 1i,f 15 2,2 a,3 1d,4 2,2 7 1p,3 10,5 1,8 1q c,2 1g,9 a,4 2 2n,3 2",
     "1,2 6 2 4d 3,8 l,2 1l,2 3 11,7 3,5 1y,6 d 1 1 e,2 2d,8 2,3 1 n 2c,6 1 4,2 1,2 6m,4 6,2 1,2",
     "r,2 2d,8 2 1,2 2y 1 2,6 1 2t 1 2,4 1,5 77,9 1,2 74,2 1 4 40,4 2,2 4 w,a 14,6 2,4 8 9,6 2,3",
     "1a,d 1,2 ba,7 1,6 1 2a,m 2,7 1,2 1,2 3e,6 3 1,2 1,7 1 20,2 3 1 9n,2 b,2 1g,5 5 1 n 44l 6,f",
     "8ug,c 3,3 1xc,5 1n,7 t4 1r,4 29 f5k,2 3mp,1a 2,n f4,3 h,8 2,7 u,4 44,3 1iz,1j 4,1e 8 e m,5",
     "1,f 11s,7 1,h 2,7 1,2 1,5 2s 4g,7 af 1p,4 e4,4 72,2 kg,7 31,7 gzhx,6o"]

/-- Spacing marks. -/
def spacingMark : CodeRanges := .ofLines
    ["1s3 1j 2,3 8,4 1,2 1e,2 1m,3 6,2 2,2 a 17 1m,3 1u 1m,3 8 1,2 1h,2 1m 1 6,2 2,2 a 2u,2 1,2",
     "3,3 1,3 a 15,3 1p,4 1p,2 1m 1,5 2,2 1,2 9,2 s e,2 1m,3 5,3 1,3 a 16,2 23,3 6,8 i,2 96,2 1r",
     "4r,2 4 6 2,2 p,2 a,3 2,7 l,2 2,6 2 a,3 1a0 u 3l 7,8 1,2 9m,4 2,3 4,2 1,6 68,2 1m 1 9 1,2",
     "8,6 41 1c 5 1,5 1,2 1p u 4,2 2 1o 2,3 1 3,2 1c,8 8,2 4r l 3sm,2 noz,2 2 2g,2 1e,g 3y,2 1b",
     "1c,2 4,2 2,3 32,2 2,2 o 19 1 31 2,2 5 6l,2 1,2 1,2 1 jrn 1 3j 19,3 4,2 37 o,2 1n 1c,3 9,2",
     "d 2l,3 3,2 1 4q,3 v,2 1m,2 1,4 2,2 2,3 9 a,2 2c,3 7 2 1,4 1,2 1 2t,3 8,2 3 2y,3 6 1,4 2",
     "6l,3 6,4 2 35,3 8,2 1 31 1,2 6 2v 1,2 4 79,3 9 6v,6 1,2 4 2 1 3y,3 8,4 4 2c t,2 1q bb e 2y",
     "7 2 5x,5 4,2 1 9q,2 c 1c,2 8,2 1 d0o,3 2sk,1j 2w,2 j8z,2 6,6"]

/-- Enclosing marks. -/
def enclosingMark : CodeRanges := .ofLines
    ["w8,2 4dw 17i,4 1,3 qdn,3"]

/-- Decimal digits. -/
def decimalNumber : CodeRanges := .ofLines
    ["1c,a 17q,a 3q,a 5i,a bg,a 3a,a 3a,a 3a,a 3a,a 3a,a 3a,a 3a,a 3a,a 3a,a 2o,a 3a,a 1y,a 7q,a",
     "1y,a 1fq,a 12,a 8c,a 3k,a 4m,a 6,a 52,a 2e,a 3q,a 6,a r7q,a iu,a 12,a 5i,a m,a 2e,a ba,a",
     "geu,a 13a,a 1om,a 6,a m4,a 3k,a 1o,a 40,a 7q,a 9i,a 3a,a ae,a 2u,a 6,k 24,a bq,a 2u,a ie,a",
     "2e,a 6u,a 1y,a bq,a d06,a 1t2,a 2e,a 3q,a eu,a iuu,a 250,1e 1ts,a bq,a dy,a 6v,a np,a",
     "3o6,a"]

/-- Letters that are numbers. -/
def letterNumber : CodeRanges := .ofLines
    ["4j2,3 227,z 2,4 2v2 p,9 e,3 nfv,a hu8,1h cs 8 3q,5 6cq,33"]

/-- Other numbers. -/
def otherNumber : CodeRanges := .ofLines
    ["4y,2 5 2,3 1th,6 ag,6 3c,3 3p,7 61,7 h,9 c1,a tx,k vn,a dc 1at 3,6 6,a 5i,g 15 k6,1o 26,m",
     "hi,u 12h wk,4 3u,a u,8 1,f w,a 13,f n74,6 hjl,19 1t,4 h,2 9h,r 10,4 110,8 p,7 13,9 23,5",
     "m,6 4g,2 2,g 2,1a 1s,9 1g,2 u,3 23,5 2w,8 o,8 15,7 96,6 9s,v 4e,a 16,4 34,7 3q,k aj,k",
     "11h,2 by,9 o7,j nn,l ex2,7 m6,n js9,k c,k 30,p 47i,9 pt,1n 1,3 1,4 24,19 1,f qq,d"]

/-- Connecting punctuation. -/
def connectorPunctuation : CodeRanges := .ofLines
    ["2n 6an,2 j 17tq,2 o,3 6n"]

/-- Dashes. -/
def dashPunctuation : CodeRanges := .ofLines
    ["19 124 1f 2td sl 1l5,6 2rl 2 v,2 4 s ce j 33 14ls,2 11 a 4p 2u8 8u"]

/-- Opening punctuation. -/
def openPunctuation : CodeRanges := .ofLines
    ["14 1e v 2wu 1 1ge 1vi 3 12 1j f hm 1 u u6 1 1 1 1 1 1 28 w 1 1 1 1 b8 1 1 1 1 1 1 1 1 1 1",
     "1s 1 x th 1 1 1 p i 1 1 1 bw 1 1 1 1 3 1 1 1 2 14ip 5z t 1 1 1 1 1 1 1 3 h 1 1 4q 1e v 3 2"]

/-- Closing punctuation. -/
def closePunctuation : CodeRanges := .ofLines
    ["15 1f v 2wt 1 1ge 1wp 1j f hm 1 u u6 1 1 1 1 1 1 28 w 1 1 1 1 b8 1 1 1 1 1 1 1 1 1 1 1s 1",
     "x th 1 1 1 18 1 1 1 bw 1 1 1 1 3 1 1 1 2,2 14im 61 t 1 1 1 1 1 1 1 3 h 1 1 4q 1f v 2 2"]

/-- Initial quotation marks. -/
def initialPunctuation : CodeRanges := .ofLines
    ["4r 67g 2,2 2 p 2q0 1 4 2 f 3"]

/-- Final quotation marks. -/
def finalPunctuation : CodeRanges := .ofLines
    ["57 671 3 s 2q0 1 4 2 f 3"]

/-- Other punctuation. -/
def otherPunctuation : CodeRanges := .ofLines
    ["x,3 1,3 2 1 1,2 a,2 3,2 r 1w 5 e,2 7 ji 8 cy,6 15 1i 2 2 18,2 k,2 1,2 d 1,3 22,4 2u 17,e",
     "6h,3 1i,f v 79,2 a 3w 3c 3d au c a7 2i a,2 4o,f 1 34 22,5 4,2 33,6 4r h0,9 lh 3g,3 1z,2",
     "4d,3 1,3 11,6 1,4 8p,2 60,2 3k,7 1,6 4g,2 a,7 s,3 3g,4 1n,5 1q,2 1s,8 b n6,2 8,8 8,9 2,4",
     "2,3 3,b 1 1,a 2hm,4 1,2 34 3z,2 4,3 2 2,9 1,2 1 2,2 a,5 1,a 2,4 1 1,d 2,3 bw,3 1l 59 mwy,2",
     "7h,3 2r a 37,6 ak,4 2e,2 14,3 1 1d,2 1b 2p,d g,2 3g,4 3i,2 g,2 6x g84,7 2 m k,2 2,4 3,3",
     "1,4 7,3 6 1,2 45,3 1,3 2 1 1,2 a,2 3,2 r 10 2,2 be,3 ik 1c bi kn 5j v 7k,9 12 34,7 1u,7",
     "2h,4 qg,5 18,4 59,7 31,2 1,4 3i,4 1c,2 27,4 4 d 1,3 2g,6 2z 8a,2 1,2 36,5 a,2 1 2w 6y,n",
     "2x,3 s,d 24 3m,3 70 7c,3 4b 2k,8 2b,3 1,5 2l,a 5z 2n,5 16,2 hx,2 22,d 4v vk,5 29o,2 bjv,2",
     "3p 1t,5 8 fc,3 87,4 93 f5o 5wn,5 29f ny,2"]

/-- Mathematical symbols. -/
def mathSymbol : CodeRanges := .ofLines
    ["17 g,3 1p 1 19 4 11 v la en,3 56j d 13,3 d,3 3v 13,5 6 1w,5 5,2 4 2 2 7 v,2 2 1 v,7g w,2",
     "2i u,p 14,6 d1 9 1i,8 33 9c,5 2,v a,g 74,3n m,1r 4,w 2,76 1c,l 2,6 1524 mw 1,3 4k g,3 1p 1",
     "3n 6,4 2ox,2 13qp p v p v p v p v p 4ks,2"]

/-- Currency symbols. -/
def currencySymbol : CodeRanges := .ofLines
    ["10 3h,4 yx 3f du,2 du,2 7 6t 7b g5 1wb 1qc,x qrb gxv 30 4a 63,2 3,2 6ba,4 12ji 1ww"]

/-- Modifier symbols. -/
def modifierSymbol : CodeRanges := .ofLines
    ["2m 1 1z 6 4 3 eh,4 c,e 5,7 1 1,h 39 e,2 zm 4l0 1,3 b,3 d,3 d,3 d,2 3a4,2 ndv,n 9,2 2v,2 r4",
     "e,2 fuu,h or 1 4i 1c7r,5"]

/-- Other symbols. -/
def otherSymbol : CodeRanges := .ofLines
    ["4m 2 4 1 r5 7e,2 3j,2 5q a j,2 6v eb ad 3m,6 1 3o 5r 15 av,3 f 1,3 2,6 k 1 1 3p,8 1,6 1,2",
     "5,4 5h,2 kw,a k3 k2 4d,y 9t,a 9,9 137,2 1,4 1,2 a 1,2 6,6 1 1 1 4 b,2 e 1,2 1 1m,2 9,5 2,4",
     "1,2 1,2 1,7 1,v 2,2 1 1,v 7g,8 4,k 2,7 2,29 1,u p,14 6,20 m,b 29,26 m,53 1,9 1,1i 8,33",
     "1,6w 18,18 1s,74 e8,1c l,2 6,13 2,w 1,2x 6d,6 9x,2 1a,q 1,2h c,5y q,g 4 d,2 c l,2 6,2 9c,2",
     "4,a w,12 9 g,v b,u 8 f,w a,13 f,8w 534,1s h3k,1j o1,4 a,2 1 fx,3 gcm,g 3j 19,3 dg 3 4,2",
     "d,2 8p,9 1l,h 2,3 1,d 3 1b,19 1a2,2 gf 2gm 1p1,8 4,h eve,4 5 g2e 31f,6o g,c4 4c,38 1o,6u",
     "a,13 2,1o 5,3 m,2 7,u 4,1p l,1u 3 56,2f x5,e8 1j,4 1e,8 1,e 1,2 1c8 28s 3l k1,18 4,2s c,f",
     "2,f 1,f 1,11 n,4h 1k,t d,18 4,9 7,2 e,6 4a,6z 5,k8 4,h 3,d 3,3b 4,2n 6,c 4 f,c 4,1k 8,a",
     "6,14 8,u 2,c 4,2 1q,9g c,e 2,d 3,a 5,1k 7,f 2,b 6,9 7,43 1,2k"]

/-- Spaces. -/
def spaceSeparator : CodeRanges := .ofLines
    ["w 3j 4bj 1vj,b 10 1b 334"]

/-- The line separator. -/
def lineSeparator : CodeRanges := .ofLines
    ["6co"]

/-- The paragraph separator. -/
def paragraphSeparator : CodeRanges := .ofLines
    ["6cp"]

/-- Control characters. -/
def control : CodeRanges := .ofLines
    ["0,w 2n,x"]

/-- Format characters. -/
def format : CodeRanges := .ofLines
    ["4t 11u,6 m 5c 1d ao,2 28 2zv 1ks,5 q,5 1d,5 1,a 17yn 6x,3 3b5 f 6zm,g qxs,4 43z,8 h406",
     "u,2o"]

/-- Private-use characters. -/
def privateUse : CodeRanges := .ofLines
    ["188w,4xs jpc0,1eke 2,1eke"]

/-- Each category with its short name, its long name and any further name. -/
def all : List NamedRanges :=
  [⟨["Lu", "Uppercase_Letter"], uppercaseLetter⟩,
   ⟨["Ll", "Lowercase_Letter"], lowercaseLetter⟩,
   ⟨["Lt", "Titlecase_Letter"], titlecaseLetter⟩,
   ⟨["Lm", "Modifier_Letter"], modifierLetter⟩,
   ⟨["Lo", "Other_Letter"], otherLetter⟩,
   ⟨["Mn", "Nonspacing_Mark"], nonspacingMark⟩,
   ⟨["Mc", "Spacing_Mark"], spacingMark⟩,
   ⟨["Me", "Enclosing_Mark"], enclosingMark⟩,
   ⟨["Nd", "Decimal_Number", "digit"], decimalNumber⟩,
   ⟨["Nl", "Letter_Number"], letterNumber⟩,
   ⟨["No", "Other_Number"], otherNumber⟩,
   ⟨["Pc", "Connector_Punctuation"], connectorPunctuation⟩,
   ⟨["Pd", "Dash_Punctuation"], dashPunctuation⟩,
   ⟨["Ps", "Open_Punctuation"], openPunctuation⟩,
   ⟨["Pe", "Close_Punctuation"], closePunctuation⟩,
   ⟨["Pi", "Initial_Punctuation"], initialPunctuation⟩,
   ⟨["Pf", "Final_Punctuation"], finalPunctuation⟩,
   ⟨["Po", "Other_Punctuation"], otherPunctuation⟩,
   ⟨["Sm", "Math_Symbol"], mathSymbol⟩,
   ⟨["Sc", "Currency_Symbol"], currencySymbol⟩,
   ⟨["Sk", "Modifier_Symbol"], modifierSymbol⟩,
   ⟨["So", "Other_Symbol"], otherSymbol⟩,
   ⟨["Zs", "Space_Separator"], spaceSeparator⟩,
   ⟨["Zl", "Line_Separator"], lineSeparator⟩,
   ⟨["Zp", "Paragraph_Separator"], paragraphSeparator⟩,
   ⟨["Cc", "Control", "cntrl"], control⟩,
   ⟨["Cf", "Format"], format⟩,
   ⟨["Co", "Private_Use"], privateUse⟩]

end Gleaner.Unicode.Category
