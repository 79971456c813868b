import Gleaner.Unicode.CodeRanges

/-!
# Scripts of Unicode

The characters of each script and those that are used with it, in version 16 of Unicode, with the
names under which the script is known.
-/

namespace Gleaner.Unicode.Script

/-- A script: its names and its characters. -/
structure Entry where
  /-- The short name, the long name and any further name. -/
  names : List String
  /-- The characters of the script. -/
  ranges : CodeRanges
  /-- The characters that are used with the script, its own or shared ones. -/
  extended : CodeRanges

/-- All scripts. -/
def all : List Entry :=
  [⟨["Adlm", "Adlam"],
    .ofLines ["2olc,24 4,a 4,2"],
    .ofLines ["17j w 55a 2r5 2fge,24 4,a 4,2"]⟩,
   ⟨["Aghb", "Caucasian_Albanian"],
    .ofLines ["1flc,1g b"],
    .ofLines ["lg 18 18 1exd,1g b"]⟩,
   ⟨["Ahom"],
    .ofLines ["1j40,r 2,f 4,n"],
    .ofLines ["1j40,r 2,f 4,n"]⟩,
   ⟨["Arab", "Arabic"],
    .ofLines ["16o,5 1,6 1,e 1,3 1,w 1,a b,q 1,30 1,y 28,1c 6o,v 1,2 5,23 1,t 1bv4,37 g,a3 2,28",
              "2,1i 7 w,g 34,5 1,3r 31f,v 1v,3 1j,4 181s,4 1,r 1,2 1 2 1,a 1,4 1 1 6 4 1 1 1,3",
              "1,2 1 2 1 1 1 1 1,2 1 2,4 1,7 1,4 1,4 1 1,a 1,h 5,3 1,5 1,h 1g,2"],
    .ofLines ["16o,5 1,5z 1,y 28,1c 6o,v 1,2 5,23 1,t 4lr 2r5 14i6,37 g,cd 2,1i 7 w,g 34,5 1,3r",
              "rn,s 290,v 1v,3 1j,4 181s,4 1,r 1,2 1 2 1,a 1,4 1 1 6 4 1 1 1,3 1,2 1 2 1 1 1 1",
              "1,2 1 2,4 1,7 1,4 1,4 1 1,a 1,h 5,3 1,5 1,h 1g,2"]⟩,
   ⟨["Armi", "Imperial_Aramaic"],
    .ofLines ["1g74,m 1,9"],
    .ofLines ["1g74,m 1,9"]⟩,
   ⟨["Armn", "Armenian"],
    .ofLines ["10x,12 2,1e 2,3 1chv,5"],
    .ofLines ["lk fc,12 2,1e 2,3 1chv,5"]⟩,
   ⟨["Avst", "Avestan"],
    .ofLines ["1gqo,1i 3,7"],
    .ofLines ["53 8zc,2 17m6,1i 3,7"]⟩,
   ⟨["Bali", "Balinese"],
    .ofLines ["5c0,25 1,1e"],
    .ofLines ["5c0,25 1,1e"]⟩,
   ⟨["Bamu", "Bamum"],
    .ofLines ["www,2g 124o,ft"],
    .ofLines ["www,2g 124o,ft"]⟩,
   ⟨["Bass", "Bassa_Vah"],
    .ofLines ["1zo0,u 2,6"],
    .ofLines ["1zo0,u 2,6"]⟩,
   ⟨["Batk", "Batak"],
    .ofLines ["5hc,1g 8,4"],
    .ofLines ["5hc,1g 8,4"]⟩,
   ⟨["Beng", "Bengali"],
    .ofLines ["1vk,4 1,8 2,2 2,m 1,7 1 3,4 2,9 2,2 2,4 8 4,2 1,5 2,p"],
    .ofLines ["jg 1as,2 h,2 q,4 1,8 2,2 2,m 1,7 1 3,4 2,9 2,2 2,4 8 4,2 1,5 2,p 3pt 1 2,2 1 8 8",
              "2 4 2,3 rnd"]⟩,
   ⟨["Bhks", "Bhaiksuki"],
    .ofLines ["1k3k,9 1,19 1,e a,t"],
    .ofLines ["1k3k,9 1,19 1,e a,t"]⟩,
   ⟨["Bopo", "Bopomofo"],
    .ofLines ["kq,2 93t,17 34,w"],
    .ofLines ["jr 1,3 d g,2 8wl,3 4,a 1,d a,4 2 6 5f 9,17 34,w 14ed,2 7u,5"]⟩,
   ⟨["Brah", "Brahmi"],
    .ofLines ["1hq8,26 4,10 9"],
    .ofLines ["1hq8,26 4,10 9"]⟩,
   ⟨["Brai", "Braille"],
    .ofLines ["7wg,74"],
    .ofLines ["7wg,74"]⟩,
   ⟨["Bugi", "Buginese"],
    .ofLines ["54w,s 2,2"],
    .ofLines ["54w,s 2,2 sdr"]⟩,
   ⟨["Buhd", "Buhid"],
    .ofLines ["4lc,k"],
    .ofLines ["4l1,2 9,k"]⟩,
   ⟨["Cakm", "Chakma"],
    .ofLines ["1hxc,1h 1,i"],
    .ofLines ["1ye,a 18w,a 1epi,1h 1,i"]⟩,
   ⟨["Cans", "Canadian_Aboriginal"],
    .ofLines ["3y8,hs fk,1y 1ewq,g"],
    .ofLines ["3y8,hs fk,1y 1ewq,g"]⟩,
   ⟨["Cari", "Carian"],
    .ofLines ["1f34,1d"],
    .ofLines ["53 68y 2 2qb 15ym,1d"]⟩,
   ⟨["Cham"],
    .ofLines ["xkw,1j 9,e 2,a 2,4"],
    .ofLines ["xkw,1j 9,e 2,a 2,4"]⟩,
   ⟨["Cher", "Cherokee"],
    .ofLines ["3vk,2e 2,6 twy,28"],
    .ofLines ["lc,3 1 6,2 m,2 b,2 38u,2e 2,6 twy,28"]⟩,
   ⟨["Chrs", "Chorasmian"],
    .ofLines ["1ho0,s"],
    .ofLines ["1ho0,s"]⟩,
   ⟨["Copt", "Coptic", "Qaac"],
    .ofLines ["rm,e 80g,38 5,7"],
    .ofLines ["53 g8 3,2 1 30,2 30,e 80g,38 5,7 7r 1614,s"]⟩,
   ⟨["Cpmn", "Cypro_Minoan"],
    .ofLines ["1nyo,2r"],
    .ofLines ["1erk,2 972,2r"]⟩,
   ⟨["Cprt", "Cypriot"],
    .ofLines ["1g5c,6 2 1,18 1,2 3 2"],
    .ofLines ["1erk,3 4,19 3,9 1c0,6 2 1,18 1,2 3 2"]⟩,
   ⟨["Cyrl", "Cyrillic"],
    .ofLines ["sg,3p 2,4p 4ls,b 4g 24 38n,w nr4,2o ham,2 18n4,1q x"],
    .ofLines ["jg 1v,3 1 1 1 2 5 6m,8g 4ls,b 4g 24 3j 353,w 1v np8,2o ham,2 18n4,1q x"]⟩,
   ⟨["Deva", "Devanagari"],
    .ofLines ["1s0,29 4,f 2,q vhc,w mio,a"],
    .ofLines ["jg 18j,2b 2,17 3tc,13 1,2 s6 qpr,a 4m,w mio,a"]⟩,
   ⟨["Diak", "Dives_Akuru"],
    .ofLines ["1ji8,7 2 2,8 1,2 1,u 1,2 2,c 9,a"],
    .ofLines ["1ji8,7 2 2,8 1,2 1,u 1,2 2,c 9,a"]⟩,
   ⟨["Dogr", "Dogra"],
    .ofLines ["1jb4,1o"],
    .ofLines ["1us,c vcw,a m2u,1o"]⟩,
   ⟨["Dsrt", "Deseret"],
    .ofLines ["1fcw,28"],
    .ofLines ["1fcw,28"]⟩,
   ⟨["Dupl", "Duployan"],
    .ofLines ["2fpc,2z 5,d 3,9 7,a 2,4"],
    .ofLines ["53 gf,2 1 o,2 8if 26kj,2z 5,d 3,9 7,a 2,8"]⟩,
   ⟨["Egyp", "Egyptian_Hieroglyphs"],
    .ofLines ["1o1s,uu a,32z"],
    .ofLines ["1o1s,uu a,32z"]⟩,
   ⟨["Elba", "Elbasan"],
    .ofLines ["1fk0,14"],
    .ofLines ["53 gd 1eyi,14"]⟩,
   ⟨["Elym", "Elymaic"],
    .ofLines ["1hpc,n"],
    .ofLines ["1hpc,n"]⟩,
   ⟨["Ethi", "Ethiopic"],
    .ofLines ["3k0,21 1,4 2,7 1 1,4 2,15 1,4 2,x 1,4 2,7 1 1,4 2,f 1,1l 1,4 2,1v 2,w 3,q 546,n",
              "9,7 1,7 1,7 1,7 1,7 1,7 1,7 1,7 opu,6 2,6 2,6 9,7 1,7 1qk1,7 1,4 1,2 1,f"],
    .ofLines ["lq 2y9,21 1,4 2,7 1 1,4 2,15 1,4 2,x 1,4 2,7 1 1,4 2,f 1,1l 1,4 2,1v 2,w 3,q",
              "546,n 9,7 1,7 1,7 1,7 1,7 1,7 1,7 1,7 opu,6 2,6 2,6 9,7 1,7 1qk1,7 1,4 1,2 1,f"]⟩,
   ⟨["Gara", "Garay"],
    .ofLines ["1h6o,12 3,t 8,2"],
    .ofLines ["170 e 3 1fz4,12 3,t 8,2"]⟩,
   ⟨["Geor", "Georgian"],
    .ofLines ["3a8,12 1 5 2,17 1,4 2a8,17 2,3 37k,12 1 5"],
    .ofLines ["53 y9 26u,12 1 5 2,1c 2a8,17 2,3 pm 2hx,12 1 5 77"]⟩,
   ⟨["Glag", "Glagolitic"],
    .ofLines ["8ow,2o 2e1s,7 1,h 2,7 1,2 1,5"],
    .ofLines ["53 gb 1 am 2 75 29d 31a 2at,2o df nqj 1pxs,7 1,h 2,7 1,2 1,5"]⟩,
   ⟨["Gong", "Gunjala_Gondi"],
    .ofLines ["1kdc,6 1,2 1,11 1,2 1,6 7,a"],
    .ofLines ["53 1po,2 1iii,6 1,2 1,11 1,2 1,6 7,a"]⟩,
   ⟨["Gonm", "Masaram_Gondi"],
    .ofLines ["1kao,7 1,2 1,18 3 1,2 1,9 8,a"],
    .ofLines ["1us,2 1ifu,7 1,2 1,18 3 1,2 1,9 8,a"]⟩,
   ⟨["Goth", "Gothic"],
    .ofLines ["1f74,r"],
    .ofLines ["53 gc,2 2 14 1eke,r"]⟩,
   ⟨["Gran", "Grantha"],
    .ofLines ["1ibk,4 1,8 2,2 2,m 1,7 1,2 1,5 2,9 2,2 2,3 2 6 5,7 2,7 3,5"],
    .ofLines ["1u9,2 h,2 hs,e 3bw 1,2 u,3 3,2 s6 1btb,4 1,8 2,2 2,m 1,7 1,2 1,5 1,a 2,2 2,3 2 6",
              "5,7 2,7 3,5 2fv,2 1"]⟩,
   ⟨["Grek", "Greek"],
    .ofLines ["og,4 1,3 2,4 1 4 1 1,3 1 1,k 1,1r e,g 4yu,5 1e,5 4,5 2c 8w,m 2,6 2,12 2,6 2,8 1",
              "1 1 1,v 2,1h 1,f 1,e 2,6 1,j 2,3 1,9 87 rb2 gyi,27 h 155r,1y"],
    .ofLines ["53 g8,2 2 1 1 a 1a 2 16,8 2,4 1 4 1 1,3 1 1,k 1,1r e,g 4yu,5 1e,5 4,5 2c,3 8u,m",
              "2,6 2,12 2,6 2,8 1 1 1 1,v 2,1h 1,f 1,e 2,6 1,j 2,3 1,9 2m 5k rb2 gyi,27 h",
              "155r,1y"]⟩,
   ⟨["Gujr", "Gujarati"],
    .ofLines ["22p,3 1,9 1,3 1,m 1,7 1,2 1,5 2,a 1,3 1,3 2 f,4 2,c 7,7"],
    .ofLines ["1u9,2 h,2 7v,3 1,9 1,3 1,m 1,7 1,2 1,5 2,a 1,3 1,3 2 f,4 2,c 7,7 v1s,a"]⟩,
   ⟨["Gukh", "Gurung_Khema"],
    .ofLines ["1xq8,1m"],
    .ofLines ["1ut 1vve,1m"]⟩,
   ⟨["Guru", "Gurmukhi"],
    .ofLines ["1z5,3 1,6 4,2 2,m 1,7 1,2 1,2 1,2 2 1,5 4,2 2,3 3 7,4 1 7,h"],
    .ofLines ["1u9,2 h,2 4b,3 1,6 4,2 2,m 1,7 1,2 1,2 1,2 2 1,5 4,2 2,3 3 7,4 1 7,h v5l,a"]⟩,
   ⟨["Hang", "Hangul"],
    .ofLines ["3cw,74 5ym,2 75,2m 35,v 1t,v nhd,t hv,8mc c,n 4,1d 7tw,v 3,6 2,6 2,6 2,3"],
    .ofLines ["3cw,74 5xd,3 4,a 1,d e,3 6 5f 1h,2m 35,v 1t,v nhd,t hv,8mc c,n 4,1d 7k9,2 7u,5",
              "1m,v 3,6 2,6 2,6 2,3"]⟩,
   ⟨["Hani", "Han"],
    .ofLines ["96o,q 1,2h c,5y 1b 1 p,9 e,4 qs,534 1s,g74 hkw,a6 2,2y n48,2 c,2 sge,wyo w,37e",
              "6,66 2,4g2 e,5rl f,ha 1wi,f2 15u,3t7 5,38g"],
    .ofLines ["53 91k,q 1,2h c,5y q,g 1,3 1,d 1,d 1,d 2 6,9 57 44,g w,12 9 1c,14 1k,1d f,c 1f",
              "2g,p a,5 2o,v 1,534 1s,g74 1ds,8 g6w,a6 2,2y ob,2 7u,5 m7w,2 c,2 jn2,i 63i,2",
              "2pa,wyo w,37e 6,66 2,4g2 e,5rl f,ha 1wi,f2 15u,3t7 5,38g"]⟩,
   ⟨["Hano", "Hanunoo"],
    .ofLines ["4kg,l"],
    .ofLines ["4kg,n"]⟩,
   ⟨["Hatr", "Hatran"],
    .ofLines ["1gbk,j 1,2 5,5"],
    .ofLines ["1gbk,j 1,2 5,5"]⟩,
   ⟨["Hebr", "Hebrew"],
    .ofLines ["13l,1j 8,r 4,6 1cfc,q 1,5 1 1,2 1,2 1,a"],
    .ofLines ["lj,2 i0,1j 8,r 4,6 1cfc,q 1,5 1 1,2 1,2 1,a"]⟩,
   ⟨["Hira", "Hiragana"],
    .ofLines ["9j5,2e 6,3 23q9,7z i t,3 crx"],
    .ofLines ["9hd,3 4,a 1,d g,6 1 4,2 3,2e 2,8 2i,2 14js,2 7u,5 a 19,2 yu9,7z i t,3 crx"]⟩,
   ⟨["Hluw", "Anatolian_Hieroglyphs"],
    .ofLines ["1s00,g7"],
    .ofLines ["1s00,g7"]⟩,
   ⟨["Hmng", "Pahawh_Hmong"],
    .ofLines ["1zpc,1y a,a 1,7 1,l 5,j"],
    .ofLines ["1zpc,1y a,a 1,7 1,l 5,j"]⟩,
   ⟨["Hmnp", "Nyiakeng_Puachue_Hmong"],
    .ofLines ["2n0g,19 3,e 2,a 4,2"],
    .ofLines ["2n0g,19 3,e 2,a 4,2"]⟩,
   ⟨["Hung", "Old_Hungarian"],
    .ofLines ["1h1c,1f d,1f 7,6"],
    .ofLines ["6e2 2 2qb f 17we,1f d,1f 7,6"]⟩,
   ⟨["Ital", "Old_Italic"],
    .ofLines ["1f5s,10 9,3"],
    .ofLines ["1f5s,10 9,3"]⟩,
   ⟨["Java", "Javanese"],
    .ofLines ["xhc,26 2,a 4,2"],
    .ofLines ["xhc,26 1,b 4,2"]⟩,
   ⟨["Kali", "Kayah_Li"],
    .ofLines ["xds,1a 1"],
    .ofLines ["xds,1c"]⟩,
   ⟨["Kana", "Katakana"],
    .ofLines ["9lt,2i 2,3 6o,g 5s,1b 1,2g 14b2,a 1,19 ytu,4 1,7 1,2 1 7z,3 1e e,4"],
    .ofLines ["lh t 8v1,3 4,a 1,d g,6 1 4,2 2j,4 3,2o 6o,g 5s,1b 1,2g 1431,2 7u,1r yts,4 1,7",
              "1,2 1 7z,3 1e e,4"]⟩,
   ⟨["Kawi"],
    .ofLines ["1kow,h 1,15 3,t"],
    .ofLines ["1kow,h 1,15 3,t"]⟩,
   ⟨["Khar", "Kharoshthi"],
    .ofLines ["1gjk,4 1,2 5,8 1,3 1,t 2,3 4,a 7,9"],
    .ofLines ["1gjk,4 1,2 5,8 1,3 1,t 2,3 4,a 7,9"]⟩,
   ⟨["Khmr", "Khmer"],
    .ofLines ["4n4,2m 2,a 6,a di,w"],
    .ofLines ["4n4,2m 2,a 6,a di,w"]⟩,
   ⟨["Khoj", "Khojki"],
    .ofLines ["1i4g,i 1,1b"],
    .ofLines ["25i,a v28,a kw6,i 1,1b"]⟩,
   ⟨["Kits", "Khitan_Small_Script"],
    .ofLines ["20o4 5cr,d2 15"],
    .ofLines ["20o4 5cr,d2 15"]⟩,
   ⟨["Knda", "Kannada"],
    .ofLines ["2gw,d 1,3 1,n 1,a 1,5 2,9 1,3 1,4 7,2 6,2 1,4 2,a 1,3"],
    .ofLines ["1u9,2 h,2 m2,d 1,3 1,n 1,a 1,5 2,9 1,3 1,4 7,2 6,2 1,4 2,a 1,3 34s 1,2 6 n 1",
              "ri3,6"]⟩,
   ⟨["Krai", "Kirat_Rai"],
    .ofLines ["205c,1m"],
    .ofLines ["205c,1m"]⟩,
   ⟨["Kthi", "Kaithi"],
    .ofLines ["1hts,1v a"],
    .ofLines ["1uu,a 79d o3i,a kli,1v a"]⟩,
   ⟨["Lana", "Tai_Tham"],
    .ofLines ["55s,1r 1,t 2,b 6,a 6,e"],
    .ofLines ["55s,1r 1,t 2,b 6,a 6,e"]⟩,
   ⟨["Laoo", "Lao"],
    .ofLines ["2v5,2 1 1,5 1,o 1 1,n 2,5 1 1,7 1,a 2,4"],
    .ofLines ["2v5,2 1 1,5 1,o 1 1,n 2,5 1 1,7 1,a 2,4"]⟩,
   ⟨["Latn", "Latin"],
    .ofLines ["1t,q 6,q 1b f 5,n 1,v 1,ch 13,5 55n,12 6,1d 5,4 5,d 1,1y 1t,74 a9 d g,d 3x,2 6 r",
              "h,15 253,w o82,2u 3,1v 2,2 1 1,8 l,e mo,17 1,9 1,4 fpy,7 t6,q 6,q 1lx,6 1,16 1,9",
              "16it,v 6,6"],
    .ofLines ["1t,q 6,q 1b c 2 5,n 1,v 1,ch 3 a 1,3 1 9 1 6,5 r,f 1,2 1 c 2,3 7,2 1,2 12 5 4,d",
              "7p,2 y2,2 1ig 2dg,12 6,1d 5,4 5,d 1,1y 1l 7,74 8f 1t d g,d 2b 1l,2 6 r h,15",
              "253,w bb nvs,8 q,2u 3,1v 2,2 1 1,8 l,e 8e e9,17 1,9 1,4 fpy,7 t6,q 6,q 1lx,6",
              "1,16 1,9 16it,v 6,6"]⟩,
   ⟨["Lepc", "Lepcha"],
    .ofLines ["5j4,1k 3,f 3,3"],
    .ofLines ["5j4,1k 3,f 3,3"]⟩,
   ⟨["Limb", "Limbu"],
    .ofLines ["4xs,v 1,c 4,c 4 3,c"],
    .ofLines ["1ut 32y,v 1,c 4,c 4 3,c"]⟩,
   ⟨["Lina", "Linear_A"],
    .ofLines ["1fr4,8n 9,m a,8"],
    .ofLines ["1err,19 y4,8n 9,m a,8"]⟩,
   ⟨["Linb", "Linear_B"],
    .ofLines ["1ekg,c 1,q 1,j 1,2 1,f 2,e y,3f"],
    .ofLines ["1ekg,c 1,q 1,j 1,2 1,f 2,e y,3f 5,3 4,19 3,9"]⟩,
   ⟨["Lisu"],
    .ofLines ["wk0,1c o8g"],
    .ofLines ["jg g 8xo,2 n2c,1c o8g"]⟩,
   ⟨["Lyci", "Lycian"],
    .ofLines ["1f28,t"],
    .ofLines ["6e2 18o5,t"]⟩,
   ⟨["Lydi", "Lydian"],
    .ofLines ["1gdc,q 5"],
    .ofLines ["53 8zd 178u,q 5"]⟩,
   ⟨["Mahj", "Mahajani"],
    .ofLines ["1hzk,13"],
    .ofLines ["53 1po,c vcw,a kra,13"]⟩,
   ⟨["Maka", "Makasar"],
    .ofLines ["1ko0,p"],
    .ofLines ["1ko0,p"]⟩,
   ⟨["Mand", "Mandaic"],
    .ofLines ["1mo,s 2"],
    .ofLines ["18g e7,s 2"]⟩,
   ⟨["Mani", "Manichaean"],
    .ofLines ["1gow,13 4,c"],
    .ofLines ["18g 1fgf,13 4,c"]⟩,
   ⟨["Marc", "Marchen"],
    .ofLines ["1k6o,w 2,m 1,e"],
    .ofLines ["1k6o,w 2,m 1,e"]⟩,
   ⟨["Medf", "Medefaidrin"],
    .ofLines ["20cg,2j"],
    .ofLines ["20cg,2j"]⟩,
   ⟨["Mend", "Mende_Kikakui"],
    .ofLines ["2oe8,5h 2,g"],
    .ofLines ["2oe8,5h 2,g"]⟩,
   ⟨["Merc", "Meroitic_Cursive"],
    .ofLines ["1ggw,o 4,k 2,1a"],
    .ofLines ["1ggw,o 4,k 2,1a"]⟩,
   ⟨["Mero", "Meroitic_Hieroglyphs"],
    .ofLines ["1gg0,w"],
    .ofLines ["6e5 1a1u,w"]⟩,
   ⟨["Mlym", "Malayalam"],
    .ofLines ["2kg,d 1,3 1,1f 1,3 1,6 4,g 2,q"],
    .ofLines ["1u9,2 h,2 pm,d 1,3 1,1f 1,3 1,6 4,g 2,q 316 n ri5,3"]⟩,
   ⟨["Modi"],
    .ofLines ["1iww,1x b,a"],
    .ofLines ["x80,a lom,1x b,a"]⟩,
   ⟨["Mong", "Mongolian"],
    .ofLines ["4qo,2 2 1,k 6,2h 7,17 1e45,d"],
    .ofLines ["4qo,q 6,2h 7,17 1hg 34h,2 5,4 19hw,d"]⟩,
   ⟨["Mroo", "Mro"],
    .ofLines ["1zk0,v 1,a 4,2"],
    .ofLines ["1zk0,v 1,a 4,2"]⟩,
   ⟨["Mtei", "Meetei_Mayek"],
    .ofLines ["xr4,n 5l,1a 2,a"],
    .ofLines ["xr4,n 5l,1a 2,a"]⟩,
   ⟨["Mult", "Multani"],
    .ofLines ["1i80,7 1 1,4 1,f 1,b"],
    .ofLines ["21y,a 1g5s,7 1 1,4 1,f 1,b"]⟩,
   ⟨["Mymr", "Myanmar"],
    .ofLines ["35s,4g u9s,v 2p,w le8,k"],
    .ofLines ["35s,4g u4u 4x,v 2p,w le8,k"]⟩,
   ⟨["Nagm", "Nag_Mundari"],
    .ofLines ["2nrk,16"],
    .ofLines ["2nrk,16"]⟩,
   ⟨["Nand", "Nandinagari"],
    .ofLines ["1jmo,8 2,1a 2,b"],
    .ofLines ["1us,2 ow,a 35l 8 7 rhx,6 mei,8 2,1a 2,b"]⟩,
   ⟨["Narb", "Old_North_Arabian"],
    .ofLines ["1gn4,w"],
    .ofLines ["1gn4,w"]⟩,
   ⟨["Nbat", "Nabataean"],
    .ofLines ["1g8w,v 8,9"],
    .ofLines ["1g8w,v 8,9"]⟩,
   ⟨["Newa"],
    .ofLines ["1iio,2k 1,5"],
    .ofLines ["1iio,2k 1,5"]⟩,
   ⟨["Nkoo", "Nko"],
    .ofLines ["1j4,1n 2,3"],
    .ofLines ["170 e 3 bk,1n 2,3 1cfy,2"]⟩,
   ⟨["Nshu", "Nushu"],
    .ofLines ["20o1 cy6,b0"],
    .ofLines ["20o1 cy6,b0"]⟩,
   ⟨["Ogam", "Ogham"],
    .ofLines ["4g0,t"],
    .ofLines ["4g0,t"]⟩,
   ⟨["Olck", "Ol_Chiki"],
    .ofLines ["5lc,1c"],
    .ofLines ["5lc,1c"]⟩,
   ⟨["Onao", "Ol_Onal"],
    .ofLines ["2nyo,17 4"],
    .ofLines ["1us,2 2m3u,17 4"]⟩,
   ⟨["Orkh", "Old_Turkic"],
    .ofLines ["1gxs,21"],
    .ofLines ["6e2 2qd 17tb,21"]⟩,
   ⟨["Orya", "Oriya"],
    .ofLines ["269,3 1,8 2,2 2,m 1,7 1,2 1,5 2,9 2,2 2,3 7,3 4,2 1,5 2,i"],
    .ofLines ["1u9,2 h,2 bf,3 1,8 2,2 2,m 1,7 1,2 1,5 2,9 2,2 2,3 7,3 4,2 1,5 2,i 3fm n"]⟩,
   ⟨["Osge", "Osage"],
    .ofLines ["1fhs,10 4,10"],
    .ofLines ["ld 2 6 24 1etz,10 4,10"]⟩,
   ⟨["Osma", "Osmanya"],
    .ofLines ["1fgg,u 2,a"],
    .ofLines ["1fgg,u 2,a"]⟩,
   ⟨["Ougr", "Old_Uyghur"],
    .ofLines ["1hm8,q"],
    .ofLines ["18g 1fht vx,q"]⟩,
   ⟨["Palm", "Palmyrene"],
    .ofLines ["1g80,w"],
    .ofLines ["1g80,w"]⟩,
   ⟨["Pauc", "Pau_Cin_Hau"],
    .ofLines ["1juo,1l"],
    .ofLines ["1juo,1l"]⟩,
   ⟨["Perm", "Old_Permic"],
    .ofLines ["1f80,17"],
    .ofLines ["53 g8 5,3 a a7 1ebw,17"]⟩,
   ⟨["Phag", "Phags_Pa"],
    .ofLines ["x8g,1k"],
    .ofLines ["4qq,2 1 1m1 34i nr1,1k"]⟩,
   ⟨["Phli", "Inscriptional_Pahlavi"],
    .ofLines ["1gtc,j 5,8"],
    .ofLines ["1gtc,j 5,8"]⟩,
   ⟨["Phlp", "Psalter_Pahlavi"],
    .ofLines ["1gu8,i 7,4 c,7"],
    .ofLines ["18g 1flr,i 7,4 c,7"]⟩,
   ⟨["Phnx", "Phoenician"],
    .ofLines ["1gcg,s 3"],
    .ofLines ["1gcg,s 3"]⟩,
   ⟨["Plrd", "Miao"],
    .ofLines ["20hs,23 4,1l 7,h"],
    .ofLines ["20hs,23 4,1l 7,h"]⟩,
   ⟨["Prti", "Inscriptional_Parthian"],
    .ofLines ["1gsg,m 2,8"],
    .ofLines ["1gsg,m 2,8"]⟩,
   ⟨["Rjng", "Rejang"],
    .ofLines ["xf4,10 b"],
    .ofLines ["xf4,10 b"]⟩,
   ⟨["Rohg", "Hanifi_Rohingya"],
    .ofLines ["1h4w,14 8,a"],
    .ofLines ["170 e 3 w 43 1fsb,14 8,a"]⟩,
   ⟨["Runr", "Runic"],
    .ofLines ["4gw,23 3,b"],
    .ofLines ["4gw,2h"]⟩,
   ⟨["Samr", "Samaritan"],
    .ofLines ["1kw,1a 2,f"],
    .ofLines ["1kw,1a 2,f 7hu"]⟩,
   ⟨["Sarb", "Old_South_Arabian"],
    .ofLines ["1gm8,w"],
    .ofLines ["1gm8,w"]⟩,
   ⟨["Saur", "Saurashtra"],
    .ofLines ["xa8,1y 8,c"],
    .ofLines ["xa8,1y 8,c"]⟩,
   ⟨["Sgnw", "SignWriting"],
    .ofLines ["2l8g,i4 f,5 1,f"],
    .ofLines ["2l8g,i4 f,5 1,f"]⟩,
   ⟨["Shaw", "Shavian"],
    .ofLines ["1ff4,1c"],
    .ofLines ["53 1fa0,1c"]⟩,
   ⟨["Shrd", "Sharada"],
    .ofLines ["1i0w,2o"],
    .ofLines ["1u9 3ut 1 2,2 2 rin,6 2 ksn,2o"]⟩,
   ⟨["Sidd", "Siddham"],
    .ofLines ["1itc,1i 2,12"],
    .ofLines ["1itc,1i 2,12"]⟩,
   ⟨["Sind", "Khudawadi"],
    .ofLines ["1i9c,1n 5,a"],
    .ofLines ["1us,2 vd6,a l12,1n 5,a"]⟩,
   ⟨["Sinh", "Sinhala"],
    .ofLines ["2o1,3 1,i 3,o 1,9 1 2,7 3 4,6 1 1,8 6,a 2,3 1fcc,k"],
    .ofLines ["1us,2 t7,3 1,i 3,o 1,9 1 2,7 3 4,6 1 1,8 6,a 2,3 2yl 1cdq,k"]⟩,
   ⟨["Sogd", "Sogdian"],
    .ofLines ["1hkg,16"],
    .ofLines ["18g 1gbz,16"]⟩,
   ⟨["Sogo", "Old_Sogdian"],
    .ofLines ["1hj4,14"],
    .ofLines ["1hj4,14"]⟩,
   ⟨["Sora", "Sora_Sompeng"],
    .ofLines ["1hw0,p 7,a"],
    .ofLines ["1hw0,p 7,a"]⟩,
   ⟨["Soyo", "Soyombo"],
    .ofLines ["1jrk,2b"],
    .ofLines ["1jrk,2b"]⟩,
   ⟨["Sund", "Sundanese"],
    .ofLines ["5fk,1s 74,8"],
    .ofLines ["5fk,1s 74,8"]⟩,
   ⟨["Sunu", "Sunuwar"],
    .ofLines ["1k1s,y e,a"],
    .ofLines ["lc,2 1 9 2 s 3 1jf2,y e,a"]⟩,
   ⟨["Sylo", "Syloti_Nagri"],
    .ofLines ["x6o,19"],
    .ofLines ["1us,2 3k,a v80,19"]⟩,
   ⟨["Syrc", "Syriac"],
    .ofLines ["1ds,e 1,1o 2,3 7k,b"],
    .ofLines ["lf,2 2,2 1 l 2,3 7,2 1 kb e,2 2 w a,b q 3z,e 1,1o 2,3 7k,b 499 1"]⟩,
   ⟨["Tagb", "Tagbanwa"],
    .ofLines ["4m8,d 1,3 1,2"],
    .ofLines ["4l1,2 15,d 1,3 1,2"]⟩,
   ⟨["Takr", "Takri"],
    .ofLines ["1j0g,1m 6,a"],
    .ofLines ["1us,2 vd6,a ls6,1m 6,a"]⟩,
   ⟨["Tale", "Tai_Le"],
    .ofLines ["500,u 2,5"],
    .ofLines ["lc,2 5,2 3 2lv,a 1s6,u 2,5"]⟩,
   ⟨["Talu", "New_Tai_Lue"],
    .ofLines ["51c,18 4,q 6,b 3,2"],
    .ofLines ["51c,18 4,q 6,b 3,2"]⟩,
   ⟨["Taml", "Tamil"],
    .ofLines ["29u,2 1,6 3,3 1,4 3,2 1 1,2 3,2 3,3 3,c 4,5 3,3 1,4 2 6 e,l 1ih1,1e d"],
    .ofLines ["1u9,2 h,2 f0,2 1,6 3,3 1,4 3,2 1 1,2 3,2 3,3 3,c 4,5 3,3 1,4 2 6 e,l 3bz ro8 ky5",
              "1 1j,2 2gz,1e d"]⟩,
   ⟨["Tang", "Tangut"],
    .ofLines ["20o0 v,4qg 8,lc e8,9"],
    .ofLines ["9gw,g dr 1qsw v,4qg 8,lc e8,9"]⟩,
   ⟨["Tavt", "Tai_Viet"],
    .ofLines ["xog,1v o,5"],
    .ofLines ["xog,1v o,5"]⟩,
   ⟨["Telu", "Telugu"],
    .ofLines ["2dc,d 1,3 1,n 1,g 2,9 1,3 1,4 7,2 1,3 2 2,4 2,a 7,9"],
    .ofLines ["1u9,2 h,2 ii,d 1,3 1,n 1,g 2,9 1,3 1,4 7,2 1,3 2 2,4 2,a 7,9 38a n"]⟩,
   ⟨["Tfng", "Tifinagh"],
    .ofLines ["8xc,1k 7,2 e"],
    .ofLines ["le 1 2 1 8bq,1k 7,2 e"]⟩,
   ⟨["Tglg", "Tagalog"],
    .ofLines ["4jk,m 9"],
    .ofLines ["4jk,m 9 l,2"]⟩,
   ⟨["Thaa", "Thaana"],
    .ofLines ["1hc,1e"],
    .ofLines ["170 e,2 2 1s,a 7q,1e 1cn4 a"]⟩,
   ⟨["Thai"],
    .ofLines ["2rl,1m 5,s"],
    .ofLines ["jg q 17 19 24v,1m 5,s"]⟩,
   ⟨["Tibt", "Tibetan"],
    .ofLines ["2yo,20 1,10 4,13 1,10 1,f 1,7 4,2"],
    .ofLines ["2yo,20 1,10 4,13 1,10 1,f 1,7 4,2 6ct,4"]⟩,
   ⟨["Tirh", "Tirhuta"],
    .ofLines ["1im8,20 8,a"],
    .ofLines ["1u9,2 h,2 3v0 ri5,a ldy,20 8,a"]⟩,
   ⟨["Tnsa", "Tangsa"],
    .ofLines ["1zlc,27 1,a"],
    .ofLines ["1zlc,27 1,a"]⟩,
   ⟨["Todr", "Todhri"],
    .ofLines ["1fpc,1g"],
    .ofLines ["ld 2 2 9 1 22 1f1d,1g"]⟩,
   ⟨["Toto"],
    .ofLines ["2nbk,v"],
    .ofLines ["jg 2ms3,v"]⟩,
   ⟨["Tutg", "Tulu_Tigalari"],
    .ofLines ["1if4,a 1 2 1,12 1,a 1 2 1,4 1,a 1,2 8,2"],
    .ofLines ["2jq,a 35u 1 ri3,6 57 l1q,a 1 2 1,12 1,a 1 2 1,4 1,a 1,2 8,2"]⟩,
   ⟨["Ugar", "Ugaritic"],
    .ofLines ["1f9c,u 1"],
    .ofLines ["1f9c,u 1"]⟩,
   ⟨["Vaii", "Vai"],
    .ofLines ["wlc,8c"],
    .ofLines ["wlc,8c"]⟩,
   ⟨["Vith", "Vithkuqi"],
    .ofLines ["1fn4,b 1,f 1,7 1,2 1,b 1,f 1,7 1,2"],
    .ofLines ["1fn4,b 1,f 1,7 1,2 1,b 1,f 1,7 1,2"]⟩,
   ⟨["Wara", "Warang_Citi"],
    .ofLines ["1jfk,2b c"],
    .ofLines ["1jfk,2b c"]⟩,
   ⟨["Wcho", "Wancho"],
    .ofLines ["2ncw,1m 5"],
    .ofLines ["2ncw,1m 5"]⟩,
   ⟨["Xpeo", "Old_Persian"],
    .ofLines ["1fa8,10 4,e"],
    .ofLines ["1fa8,10 4,e"]⟩,
   ⟨["Xsux", "Cuneiform"],
    .ofLines ["1kw0,pm 2u,33 1,5 b,5g"],
    .ofLines ["1kw0,pm 2u,33 1,5 b,5g"]⟩,
   ⟨["Yezi", "Yezidi"],
    .ofLines ["1hfk,16 1,3 2,2"],
    .ofLines ["170 e 3 1s,a 1g5y,16 1,3 2,2"]⟩,
   ⟨["Yiii", "Yi"],
    .ofLines ["vls,wd 3,1j"],
    .ofLines ["9hd,2 5,a 2,8 67 lxg,wd 3,1j hwa,5"]⟩,
   ⟨["Zanb", "Zanabazar_Square"],
    .ofLines ["1jpc,20"],
    .ofLines ["1jpc,20"]⟩,
   ⟨["Zinh", "Inherited", "Qaai"],
    .ofLines ["lc,34 7p,2 ck,b q kg,4 3ff,v e9,3 1,d 1,7 4 6 3,2 5i,1s ek,2 5e,x 309,4 2z,2",
              "14kl,g g,e r3 6a 38a 1138,1a 2,n f4,3 h,8 2,7 u,4 h45u,6o"],
    .ofLines ["lr 2 1,c 1,2 3,7 2 2,g 1,2 1,i 1,5 1,4 168,2 3ff,v kz,1i 1 1,5 ek,2 5e,w 17o0,g",
              "g,e r3 14hu,1a 2,n f4,3 h,8 2,7 u,4 h45u,6o"]⟩,
   ⟨["Zyyy", "Common"],
    .ofLines ["0,1t q,6 q,1b 1,f 1,5 n v ch,13 5,5 2,k 38 9 6 1 hp 6 e 3 w 4c ec 3l,2 yh b9,4",
              "82 167,3 1z,2 5n,2 1 y5 d 7,4 1,6 1,3 2 lh,c 2,2f 1,b 3,b 1,f h,x 1r,12 1,3 2,6",
              "1,r 1,h 15,3 4,ii m,b l,ps 74,hg 2,w 1,2x e8,2m b6,l 1 1,p f,8 4,4 2j,2 3 2i,2",
              "43,g w,12 9 1c,1s v,29 1b 2g,4o 534,1s hkw,y 2u,3 4l,a 6s 4g az e,2 g5u,2 5s,a",
              "m,z 1,j 1,4 43 1,w q,6 q,b a 19,2 1s,7 1,7 a,5 76,3 4,19 3,9 28,d 1f,19 6c,r",
              "10o4,4 318,6y 6,c4 4c,38 1o,6u a,13 2,1q 3,h 8,2 7,u 4,1p 5x,k c,k c,2f 9,p",
              "3r,2d 1,1z 1,2 2 2,2 2,4 1,c 1 1,7 1,1t 1,4 2,8 1,7 1,s 1,4 1,5 1 3,7 1,9g 2,84",
              "2,1e 41d,1w 24,1p jm,18 4,2s c,f 2,f 1,f 1,11 a,4u 1k,q 1,2 d,18 4,9 7,2 e,6",
              "4a,rc 4,h 3,d 3,3b 4,2n 6,c 4 f,c 4,1k 8,a 6,14 8,u 2,c 4,2 1q,9g c,e 2,d 3,a",
              "5,1k 7,f 2,b 6,9 7,43 1,2u gvlz u,2o"],
    .ofLines ["0,1t q,6 q,1b 1,c 1,2 1,5 n v ch,3 1,a 1 3 1,9 1 1,6 5,5 2,k 3i 6 1 hp 5z ec 124",
              "b9,4 36v,c 2,x 1,v 1,a 1,2 1,7 1,b 3,b 1,f h,x 1r,12 1,3 2,6 1,r 1,h 15,3 4,ii",
              "m,b l,ps 74,hg 2,w 1,2x e8,n 1,o 2,a 1,4 1 1,q bm 3 d d l ep,o v 1d,f c,4 4h,a",
              "5,2o v 534,1s hl4,q 2u,3 r4 e,2 gbo,a m,l 2,c 1,j 1,4 43 1,w q,6 q,6 3j,7 1,7",
              "a,5 b6,d 1f,19 13wj,6y 6,c4 4c,38 1o,6u a,13 2,1q 3,h 8,2 7,u 4,1p 5x,k c,k c,2f",
              "r,7 3r,2d 1,1z 1,2 2 2,2 2,4 1,c 1 1,7 1,1t 1,4 2,8 1,7 1,s 1,4 1,5 1 3,7 1,9g",
              "2,84 2,1e 41d,1w 24,1p jm,18 4,2s c,f 2,f 1,f 1,11 a,4u 1k,q 1,2 d,18 4,9 n,6",
              "4a,rc 4,h 3,d 3,3b 4,2n 6,c 4 f,c 4,1k 8,a 6,14 8,u 2,c 4,2 1q,9g c,e 2,d 3,a",
              "5,1k 7,f 2,b 6,9 7,43 1,2u gvlz u,2o"]⟩]

end Gleaner.Unicode.Script
