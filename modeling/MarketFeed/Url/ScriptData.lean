import MarketFeed.Text.Table

/-!
Data of writing systems: the direction and the joining of characters, and which of them are marks.
-/

namespace MarketFeed.Url

open Text

/-- Where each plateau of the direction begins, and that direction by its number, in turn. -/
def directionData : List Nat := [
  0x0, 0x9, 0x9, 0xb, 0xe, 0x9, 0x1c, 0xb, 0x21, 0x8, 0x23, 0x6, 0x26, 0x8, 0x2b, 0x4, 0x2c, 0x5,
  0x2d, 0x4, 0x2e, 0x5, 0x30, 0x3, 0x3a, 0x5, 0x3b, 0x8, 0x41, 0x0, 0x5b, 0x8, 0x61, 0x0, 0x7b, 0x8,
  0x7f, 0x9, 0x85, 0xb, 0x86, 0x9, 0xa0, 0x5, 0xa1, 0x8, 0xa2, 0x6, 0xa6, 0x8, 0xaa, 0x0, 0xab, 0x8,
  0xad, 0x9, 0xae, 0x8, 0xb0, 0x6, 0xb2, 0x3, 0xb4, 0x8, 0xb5, 0x0, 0xb6, 0x8, 0xb9, 0x3, 0xba, 0x0,
  0xbb, 0x8, 0xc0, 0x0, 0xd7, 0x8, 0xd8, 0x0, 0xf7, 0x8, 0xf8, 0x0, 0x2b9, 0x8, 0x2bb, 0x0, 0x2c2,
  0x8, 0x2d0, 0x0, 0x2d2, 0x8, 0x2e0, 0x0, 0x2e5, 0x8, 0x2ee, 0x0, 0x2ef, 0x8, 0x300, 0xa, 0x370,
  0x0, 0x374, 0x8, 0x376, 0x0, 0x37e, 0x8, 0x37f, 0x0, 0x384, 0x8, 0x386, 0x0, 0x387, 0x8, 0x388,
  0x0, 0x3f6, 0x8, 0x3f7, 0x0, 0x483, 0xa, 0x48a, 0x0, 0x58a, 0x8, 0x58b, 0x0, 0x58d, 0x8, 0x58f,
  0x6, 0x590, 0x1, 0x591, 0xa, 0x5be, 0x1, 0x5bf, 0xa, 0x5c0, 0x1, 0x5c1, 0xa, 0x5c3, 0x1, 0x5c4,
  0xa, 0x5c6, 0x1, 0x5c7, 0xa, 0x5c8, 0x1, 0x600, 0x7, 0x606, 0x8, 0x608, 0x2, 0x609, 0x6, 0x60b,
  0x2, 0x60c, 0x5, 0x60d, 0x2, 0x60e, 0x8, 0x610, 0xa, 0x61b, 0x2, 0x64b, 0xa, 0x660, 0x7, 0x66a,
  0x6, 0x66b, 0x7, 0x66d, 0x2, 0x670, 0xa, 0x671, 0x2, 0x6d6, 0xa, 0x6dd, 0x7, 0x6de, 0x8, 0x6df,
  0xa, 0x6e5, 0x2, 0x6e7, 0xa, 0x6e9, 0x8, 0x6ea, 0xa, 0x6ee, 0x2, 0x6f0, 0x3, 0x6fa, 0x2, 0x711,
  0xa, 0x712, 0x2, 0x730, 0xa, 0x74b, 0x2, 0x7a6, 0xa, 0x7b1, 0x2, 0x7c0, 0x1, 0x7eb, 0xa, 0x7f4,
  0x1, 0x7f6, 0x8, 0x7fa, 0x1, 0x7fd, 0xa, 0x7fe, 0x1, 0x816, 0xa, 0x81a, 0x1, 0x81b, 0xa, 0x824,
  0x1, 0x825, 0xa, 0x828, 0x1, 0x829, 0xa, 0x82e, 0x1, 0x859, 0xa, 0x85c, 0x1, 0x860, 0x2, 0x890,
  0x7, 0x892, 0x2, 0x898, 0xa, 0x8a0, 0x2, 0x8ca, 0xa, 0x8e2, 0x7, 0x8e3, 0xa, 0x903, 0x0, 0x93a,
  0xa, 0x93b, 0x0, 0x93c, 0xa, 0x93d, 0x0, 0x941, 0xa, 0x949, 0x0, 0x94d, 0xa, 0x94e, 0x0, 0x951,
  0xa, 0x958, 0x0, 0x962, 0xa, 0x964, 0x0, 0x981, 0xa, 0x982, 0x0, 0x9bc, 0xa, 0x9bd, 0x0, 0x9c1,
  0xa, 0x9c5, 0x0, 0x9cd, 0xa, 0x9ce, 0x0, 0x9e2, 0xa, 0x9e4, 0x0, 0x9f2, 0x6, 0x9f4, 0x0, 0x9fb,
  0x6, 0x9fc, 0x0, 0x9fe, 0xa, 0x9ff, 0x0, 0xa01, 0xa, 0xa03, 0x0, 0xa3c, 0xa, 0xa3d, 0x0, 0xa41,
  0xa, 0xa43, 0x0, 0xa47, 0xa, 0xa49, 0x0, 0xa4b, 0xa, 0xa4e, 0x0, 0xa51, 0xa, 0xa52, 0x0, 0xa70,
  0xa, 0xa72, 0x0, 0xa75, 0xa, 0xa76, 0x0, 0xa81, 0xa, 0xa83, 0x0, 0xabc, 0xa, 0xabd, 0x0, 0xac1,
  0xa, 0xac6, 0x0, 0xac7, 0xa, 0xac9, 0x0, 0xacd, 0xa, 0xace, 0x0, 0xae2, 0xa, 0xae4, 0x0, 0xaf1,
  0x6, 0xaf2, 0x0, 0xafa, 0xa, 0xb00, 0x0, 0xb01, 0xa, 0xb02, 0x0, 0xb3c, 0xa, 0xb3d, 0x0, 0xb3f,
  0xa, 0xb40, 0x0, 0xb41, 0xa, 0xb45, 0x0, 0xb4d, 0xa, 0xb4e, 0x0, 0xb55, 0xa, 0xb57, 0x0, 0xb62,
  0xa, 0xb64, 0x0, 0xb82, 0xa, 0xb83, 0x0, 0xbc0, 0xa, 0xbc1, 0x0, 0xbcd, 0xa, 0xbce, 0x0, 0xbf3,
  0x8, 0xbf9, 0x6, 0xbfa, 0x8, 0xbfb, 0x0, 0xc00, 0xa, 0xc01, 0x0, 0xc04, 0xa, 0xc05, 0x0, 0xc3c,
  0xa, 0xc3d, 0x0, 0xc3e, 0xa, 0xc41, 0x0, 0xc46, 0xa, 0xc49, 0x0, 0xc4a, 0xa, 0xc4e, 0x0, 0xc55,
  0xa, 0xc57, 0x0, 0xc62, 0xa, 0xc64, 0x0, 0xc78, 0x8, 0xc7f, 0x0, 0xc81, 0xa, 0xc82, 0x0, 0xcbc,
  0xa, 0xcbd, 0x0, 0xccc, 0xa, 0xcce, 0x0, 0xce2, 0xa, 0xce4, 0x0, 0xd00, 0xa, 0xd02, 0x0, 0xd3b,
  0xa, 0xd3d, 0x0, 0xd41, 0xa, 0xd45, 0x0, 0xd4d, 0xa, 0xd4e, 0x0, 0xd62, 0xa, 0xd64, 0x0, 0xd81,
  0xa, 0xd82, 0x0, 0xdca, 0xa, 0xdcb, 0x0, 0xdd2, 0xa, 0xdd5, 0x0, 0xdd6, 0xa, 0xdd7, 0x0, 0xe31,
  0xa, 0xe32, 0x0, 0xe34, 0xa, 0xe3b, 0x0, 0xe3f, 0x6, 0xe40, 0x0, 0xe47, 0xa, 0xe4f, 0x0, 0xeb1,
  0xa, 0xeb2, 0x0, 0xeb4, 0xa, 0xebd, 0x0, 0xec8, 0xa, 0xecf, 0x0, 0xf18, 0xa, 0xf1a, 0x0, 0xf35,
  0xa, 0xf36, 0x0, 0xf37, 0xa, 0xf38, 0x0, 0xf39, 0xa, 0xf3a, 0x8, 0xf3e, 0x0, 0xf71, 0xa, 0xf7f,
  0x0, 0xf80, 0xa, 0xf85, 0x0, 0xf86, 0xa, 0xf88, 0x0, 0xf8d, 0xa, 0xf98, 0x0, 0xf99, 0xa, 0xfbd,
  0x0, 0xfc6, 0xa, 0xfc7, 0x0, 0x102d, 0xa, 0x1031, 0x0, 0x1032, 0xa, 0x1038, 0x0, 0x1039, 0xa,
  0x103b, 0x0, 0x103d, 0xa, 0x103f, 0x0, 0x1058, 0xa, 0x105a, 0x0, 0x105e, 0xa, 0x1061, 0x0, 0x1071,
  0xa, 0x1075, 0x0, 0x1082, 0xa, 0x1083, 0x0, 0x1085, 0xa, 0x1087, 0x0, 0x108d, 0xa, 0x108e, 0x0,
  0x109d, 0xa, 0x109e, 0x0, 0x135d, 0xa, 0x1360, 0x0, 0x1390, 0x8, 0x139a, 0x0, 0x1400, 0x8, 0x1401,
  0x0, 0x1680, 0xb, 0x1681, 0x0, 0x169b, 0x8, 0x169d, 0x0, 0x1712, 0xa, 0x1715, 0x0, 0x1732, 0xa,
  0x1734, 0x0, 0x1752, 0xa, 0x1754, 0x0, 0x1772, 0xa, 0x1774, 0x0, 0x17b4, 0xa, 0x17b6, 0x0, 0x17b7,
  0xa, 0x17be, 0x0, 0x17c6, 0xa, 0x17c7, 0x0, 0x17c9, 0xa, 0x17d4, 0x0, 0x17db, 0x6, 0x17dc, 0x0,
  0x17dd, 0xa, 0x17de, 0x0, 0x17f0, 0x8, 0x17fa, 0x0, 0x1800, 0x8, 0x180b, 0xa, 0x180e, 0x9, 0x180f,
  0xa, 0x1810, 0x0, 0x1885, 0xa, 0x1887, 0x0, 0x18a9, 0xa, 0x18aa, 0x0, 0x1920, 0xa, 0x1923, 0x0,
  0x1927, 0xa, 0x1929, 0x0, 0x1932, 0xa, 0x1933, 0x0, 0x1939, 0xa, 0x193c, 0x0, 0x1940, 0x8, 0x1941,
  0x0, 0x1944, 0x8, 0x1946, 0x0, 0x19de, 0x8, 0x1a00, 0x0, 0x1a17, 0xa, 0x1a19, 0x0, 0x1a1b, 0xa,
  0x1a1c, 0x0, 0x1a56, 0xa, 0x1a57, 0x0, 0x1a58, 0xa, 0x1a5f, 0x0, 0x1a60, 0xa, 0x1a61, 0x0, 0x1a62,
  0xa, 0x1a63, 0x0, 0x1a65, 0xa, 0x1a6d, 0x0, 0x1a73, 0xa, 0x1a7d, 0x0, 0x1a7f, 0xa, 0x1a80, 0x0,
  0x1ab0, 0xa, 0x1acf, 0x0, 0x1b00, 0xa, 0x1b04, 0x0, 0x1b34, 0xa, 0x1b35, 0x0, 0x1b36, 0xa, 0x1b3b,
  0x0, 0x1b3c, 0xa, 0x1b3d, 0x0, 0x1b42, 0xa, 0x1b43, 0x0, 0x1b6b, 0xa, 0x1b74, 0x0, 0x1b80, 0xa,
  0x1b82, 0x0, 0x1ba2, 0xa, 0x1ba6, 0x0, 0x1ba8, 0xa, 0x1baa, 0x0, 0x1bab, 0xa, 0x1bae, 0x0, 0x1be6,
  0xa, 0x1be7, 0x0, 0x1be8, 0xa, 0x1bea, 0x0, 0x1bed, 0xa, 0x1bee, 0x0, 0x1bef, 0xa, 0x1bf2, 0x0,
  0x1c2c, 0xa, 0x1c34, 0x0, 0x1c36, 0xa, 0x1c38, 0x0, 0x1cd0, 0xa, 0x1cd3, 0x0, 0x1cd4, 0xa, 0x1ce1,
  0x0, 0x1ce2, 0xa, 0x1ce9, 0x0, 0x1ced, 0xa, 0x1cee, 0x0, 0x1cf4, 0xa, 0x1cf5, 0x0, 0x1cf8, 0xa,
  0x1cfa, 0x0, 0x1dc0, 0xa, 0x1e00, 0x0, 0x1fbd, 0x8, 0x1fbe, 0x0, 0x1fbf, 0x8, 0x1fc2, 0x0, 0x1fcd,
  0x8, 0x1fd0, 0x0, 0x1fdd, 0x8, 0x1fe0, 0x0, 0x1fed, 0x8, 0x1ff0, 0x0, 0x1ffd, 0x8, 0x1fff, 0x0,
  0x2000, 0xb, 0x200b, 0x9, 0x200e, 0x0, 0x200f, 0x1, 0x2010, 0x8, 0x2028, 0xb, 0x202f, 0x5, 0x2030,
  0x6, 0x2035, 0x8, 0x2044, 0x5, 0x2045, 0x8, 0x205f, 0xb, 0x2060, 0x9, 0x2066, 0xb, 0x206a, 0x9,
  0x2070, 0x3, 0x2071, 0x0, 0x2074, 0x3, 0x207a, 0x4, 0x207c, 0x8, 0x207f, 0x0, 0x2080, 0x3, 0x208a,
  0x4, 0x208c, 0x8, 0x208f, 0x0, 0x20a0, 0x6, 0x20d0, 0xa, 0x20f1, 0x0, 0x2100, 0x8, 0x2102, 0x0,
  0x2103, 0x8, 0x2107, 0x0, 0x2108, 0x8, 0x210a, 0x0, 0x2114, 0x8, 0x2115, 0x0, 0x2116, 0x8, 0x2119,
  0x0, 0x211e, 0x8, 0x2124, 0x0, 0x2125, 0x8, 0x2126, 0x0, 0x2127, 0x8, 0x2128, 0x0, 0x2129, 0x8,
  0x212a, 0x0, 0x212e, 0x6, 0x212f, 0x0, 0x213a, 0x8, 0x213c, 0x0, 0x2140, 0x8, 0x2145, 0x0, 0x214a,
  0x8, 0x214e, 0x0, 0x2150, 0x8, 0x2160, 0x0, 0x2189, 0x8, 0x218c, 0x0, 0x2190, 0x8, 0x2212, 0x4,
  0x2213, 0x6, 0x2214, 0x8, 0x2336, 0x0, 0x237b, 0x8, 0x2395, 0x0, 0x2396, 0x8, 0x2427, 0x0, 0x2440,
  0x8, 0x244b, 0x0, 0x2460, 0x8, 0x2488, 0x3, 0x249c, 0x0, 0x24ea, 0x8, 0x26ac, 0x0, 0x26ad, 0x8,
  0x2800, 0x0, 0x2900, 0x8, 0x2b74, 0x0, 0x2b76, 0x8, 0x2b96, 0x0, 0x2b97, 0x8, 0x2c00, 0x0, 0x2ce5,
  0x8, 0x2ceb, 0x0, 0x2cef, 0xa, 0x2cf2, 0x0, 0x2cf9, 0x8, 0x2d00, 0x0, 0x2d7f, 0xa, 0x2d80, 0x0,
  0x2de0, 0xa, 0x2e00, 0x8, 0x2e5e, 0x0, 0x2e80, 0x8, 0x2e9a, 0x0, 0x2e9b, 0x8, 0x2ef4, 0x0, 0x2f00,
  0x8, 0x2fd6, 0x0, 0x2ff0, 0x8, 0x2ffc, 0x0, 0x3000, 0xb, 0x3001, 0x8, 0x3005, 0x0, 0x3008, 0x8,
  0x3021, 0x0, 0x302a, 0xa, 0x302e, 0x0, 0x3030, 0x8, 0x3031, 0x0, 0x3036, 0x8, 0x3038, 0x0, 0x303d,
  0x8, 0x3040, 0x0, 0x3099, 0xa, 0x309b, 0x8, 0x309d, 0x0, 0x30a0, 0x8, 0x30a1, 0x0, 0x30fb, 0x8,
  0x30fc, 0x0, 0x31c0, 0x8, 0x31e4, 0x0, 0x321d, 0x8, 0x321f, 0x0, 0x3250, 0x8, 0x3260, 0x0, 0x327c,
  0x8, 0x327f, 0x0, 0x32b1, 0x8, 0x32c0, 0x0, 0x32cc, 0x8, 0x32d0, 0x0, 0x3377, 0x8, 0x337b, 0x0,
  0x33de, 0x8, 0x33e0, 0x0, 0x33ff, 0x8, 0x3400, 0x0, 0x4dc0, 0x8, 0x4e00, 0x0, 0xa490, 0x8, 0xa4c7,
  0x0, 0xa60d, 0x8, 0xa610, 0x0, 0xa66f, 0xa, 0xa673, 0x8, 0xa674, 0xa, 0xa67e, 0x8, 0xa680, 0x0,
  0xa69e, 0xa, 0xa6a0, 0x0, 0xa6f0, 0xa, 0xa6f2, 0x0, 0xa700, 0x8, 0xa722, 0x0, 0xa788, 0x8, 0xa789,
  0x0, 0xa802, 0xa, 0xa803, 0x0, 0xa806, 0xa, 0xa807, 0x0, 0xa80b, 0xa, 0xa80c, 0x0, 0xa825, 0xa,
  0xa827, 0x0, 0xa828, 0x8, 0xa82c, 0xa, 0xa82d, 0x0, 0xa838, 0x6, 0xa83a, 0x0, 0xa874, 0x8, 0xa878,
  0x0, 0xa8c4, 0xa, 0xa8c6, 0x0, 0xa8e0, 0xa, 0xa8f2, 0x0, 0xa8ff, 0xa, 0xa900, 0x0, 0xa926, 0xa,
  0xa92e, 0x0, 0xa947, 0xa, 0xa952, 0x0, 0xa980, 0xa, 0xa983, 0x0, 0xa9b3, 0xa, 0xa9b4, 0x0, 0xa9b6,
  0xa, 0xa9ba, 0x0, 0xa9bc, 0xa, 0xa9be, 0x0, 0xa9e5, 0xa, 0xa9e6, 0x0, 0xaa29, 0xa, 0xaa2f, 0x0,
  0xaa31, 0xa, 0xaa33, 0x0, 0xaa35, 0xa, 0xaa37, 0x0, 0xaa43, 0xa, 0xaa44, 0x0, 0xaa4c, 0xa, 0xaa4d,
  0x0, 0xaa7c, 0xa, 0xaa7d, 0x0, 0xaab0, 0xa, 0xaab1, 0x0, 0xaab2, 0xa, 0xaab5, 0x0, 0xaab7, 0xa,
  0xaab9, 0x0, 0xaabe, 0xa, 0xaac0, 0x0, 0xaac1, 0xa, 0xaac2, 0x0, 0xaaec, 0xa, 0xaaee, 0x0, 0xaaf6,
  0xa, 0xaaf7, 0x0, 0xab6a, 0x8, 0xab6c, 0x0, 0xabe5, 0xa, 0xabe6, 0x0, 0xabe8, 0xa, 0xabe9, 0x0,
  0xabed, 0xa, 0xabee, 0x0, 0xfb1d, 0x1, 0xfb1e, 0xa, 0xfb1f, 0x1, 0xfb29, 0x4, 0xfb2a, 0x1, 0xfb50,
  0x2, 0xfd3e, 0x8, 0xfd50, 0x2, 0xfdcf, 0x8, 0xfdd0, 0x9, 0xfdf0, 0x2, 0xfdfd, 0x8, 0xfe00, 0xa,
  0xfe10, 0x8, 0xfe1a, 0x0, 0xfe20, 0xa, 0xfe30, 0x8, 0xfe50, 0x5, 0xfe51, 0x8, 0xfe52, 0x5, 0xfe53,
  0x0, 0xfe54, 0x8, 0xfe55, 0x5, 0xfe56, 0x8, 0xfe5f, 0x6, 0xfe60, 0x8, 0xfe62, 0x4, 0xfe64, 0x8,
  0xfe67, 0x0, 0xfe68, 0x8, 0xfe69, 0x6, 0xfe6b, 0x8, 0xfe6c, 0x0, 0xfe70, 0x2, 0xfeff, 0x9, 0xff00,
  0x0, 0xff01, 0x8, 0xff03, 0x6, 0xff06, 0x8, 0xff0b, 0x4, 0xff0c, 0x5, 0xff0d, 0x4, 0xff0e, 0x5,
  0xff10, 0x3, 0xff1a, 0x5, 0xff1b, 0x8, 0xff21, 0x0, 0xff3b, 0x8, 0xff41, 0x0, 0xff5b, 0x8, 0xff66,
  0x0, 0xffe0, 0x6, 0xffe2, 0x8, 0xffe5, 0x6, 0xffe7, 0x0, 0xffe8, 0x8, 0xffef, 0x0, 0xfff0, 0x9,
  0xfff9, 0x8, 0xfffe, 0x9, 0x10000, 0x0, 0x10101, 0x8, 0x10102, 0x0, 0x10140, 0x8, 0x1018d, 0x0,
  0x10190, 0x8, 0x1019d, 0x0, 0x101a0, 0x8, 0x101a1, 0x0, 0x101fd, 0xa, 0x101fe, 0x0, 0x102e0, 0xa,
  0x102e1, 0x3, 0x102fc, 0x0, 0x10376, 0xa, 0x1037b, 0x0, 0x10800, 0x1, 0x1091f, 0x8, 0x10920, 0x1,
  0x10a01, 0xa, 0x10a04, 0x1, 0x10a05, 0xa, 0x10a07, 0x1, 0x10a0c, 0xa, 0x10a10, 0x1, 0x10a38, 0xa,
  0x10a3b, 0x1, 0x10a3f, 0xa, 0x10a40, 0x1, 0x10ae5, 0xa, 0x10ae7, 0x1, 0x10b39, 0x8, 0x10b40, 0x1,
  0x10d00, 0x2, 0x10d24, 0xa, 0x10d28, 0x2, 0x10d30, 0x7, 0x10d3a, 0x2, 0x10d40, 0x1, 0x10e60, 0x7,
  0x10e7f, 0x1, 0x10eab, 0xa, 0x10ead, 0x1, 0x10ec0, 0x2, 0x10efd, 0xa, 0x10f00, 0x1, 0x10f30, 0x2,
  0x10f46, 0xa, 0x10f51, 0x2, 0x10f70, 0x1, 0x10f82, 0xa, 0x10f86, 0x1, 0x11000, 0x0, 0x11001, 0xa,
  0x11002, 0x0, 0x11038, 0xa, 0x11047, 0x0, 0x11052, 0x8, 0x11066, 0x0, 0x11070, 0xa, 0x11071, 0x0,
  0x11073, 0xa, 0x11075, 0x0, 0x1107f, 0xa, 0x11082, 0x0, 0x110b3, 0xa, 0x110b7, 0x0, 0x110b9, 0xa,
  0x110bb, 0x0, 0x110c2, 0xa, 0x110c3, 0x0, 0x11100, 0xa, 0x11103, 0x0, 0x11127, 0xa, 0x1112c, 0x0,
  0x1112d, 0xa, 0x11135, 0x0, 0x11173, 0xa, 0x11174, 0x0, 0x11180, 0xa, 0x11182, 0x0, 0x111b6, 0xa,
  0x111bf, 0x0, 0x111c9, 0xa, 0x111cd, 0x0, 0x111cf, 0xa, 0x111d0, 0x0, 0x1122f, 0xa, 0x11232, 0x0,
  0x11234, 0xa, 0x11235, 0x0, 0x11236, 0xa, 0x11238, 0x0, 0x1123e, 0xa, 0x1123f, 0x0, 0x11241, 0xa,
  0x11242, 0x0, 0x112df, 0xa, 0x112e0, 0x0, 0x112e3, 0xa, 0x112eb, 0x0, 0x11300, 0xa, 0x11302, 0x0,
  0x1133b, 0xa, 0x1133d, 0x0, 0x11340, 0xa, 0x11341, 0x0, 0x11366, 0xa, 0x1136d, 0x0, 0x11370, 0xa,
  0x11375, 0x0, 0x11438, 0xa, 0x11440, 0x0, 0x11442, 0xa, 0x11445, 0x0, 0x11446, 0xa, 0x11447, 0x0,
  0x1145e, 0xa, 0x1145f, 0x0, 0x114b3, 0xa, 0x114b9, 0x0, 0x114ba, 0xa, 0x114bb, 0x0, 0x114bf, 0xa,
  0x114c1, 0x0, 0x114c2, 0xa, 0x114c4, 0x0, 0x115b2, 0xa, 0x115b6, 0x0, 0x115bc, 0xa, 0x115be, 0x0,
  0x115bf, 0xa, 0x115c1, 0x0, 0x115dc, 0xa, 0x115de, 0x0, 0x11633, 0xa, 0x1163b, 0x0, 0x1163d, 0xa,
  0x1163e, 0x0, 0x1163f, 0xa, 0x11641, 0x0, 0x11660, 0x8, 0x1166d, 0x0, 0x116ab, 0xa, 0x116ac, 0x0,
  0x116ad, 0xa, 0x116ae, 0x0, 0x116b0, 0xa, 0x116b6, 0x0, 0x116b7, 0xa, 0x116b8, 0x0, 0x1171d, 0xa,
  0x11720, 0x0, 0x11722, 0xa, 0x11726, 0x0, 0x11727, 0xa, 0x1172c, 0x0, 0x1182f, 0xa, 0x11838, 0x0,
  0x11839, 0xa, 0x1183b, 0x0, 0x1193b, 0xa, 0x1193d, 0x0, 0x1193e, 0xa, 0x1193f, 0x0, 0x11943, 0xa,
  0x11944, 0x0, 0x119d4, 0xa, 0x119d8, 0x0, 0x119da, 0xa, 0x119dc, 0x0, 0x119e0, 0xa, 0x119e1, 0x0,
  0x11a01, 0xa, 0x11a07, 0x0, 0x11a09, 0xa, 0x11a0b, 0x0, 0x11a33, 0xa, 0x11a39, 0x0, 0x11a3b, 0xa,
  0x11a3f, 0x0, 0x11a47, 0xa, 0x11a48, 0x0, 0x11a51, 0xa, 0x11a57, 0x0, 0x11a59, 0xa, 0x11a5c, 0x0,
  0x11a8a, 0xa, 0x11a97, 0x0, 0x11a98, 0xa, 0x11a9a, 0x0, 0x11c30, 0xa, 0x11c37, 0x0, 0x11c38, 0xa,
  0x11c3e, 0x0, 0x11c92, 0xa, 0x11ca8, 0x0, 0x11caa, 0xa, 0x11cb1, 0x0, 0x11cb2, 0xa, 0x11cb4, 0x0,
  0x11cb5, 0xa, 0x11cb7, 0x0, 0x11d31, 0xa, 0x11d37, 0x0, 0x11d3a, 0xa, 0x11d3b, 0x0, 0x11d3c, 0xa,
  0x11d3e, 0x0, 0x11d3f, 0xa, 0x11d46, 0x0, 0x11d47, 0xa, 0x11d48, 0x0, 0x11d90, 0xa, 0x11d92, 0x0,
  0x11d95, 0xa, 0x11d96, 0x0, 0x11d97, 0xa, 0x11d98, 0x0, 0x11ef3, 0xa, 0x11ef5, 0x0, 0x11f00, 0xa,
  0x11f02, 0x0, 0x11f36, 0xa, 0x11f3b, 0x0, 0x11f40, 0xa, 0x11f41, 0x0, 0x11f42, 0xa, 0x11f43, 0x0,
  0x11fd5, 0x8, 0x11fdd, 0x6, 0x11fe1, 0x8, 0x11ff2, 0x0, 0x13440, 0xa, 0x13441, 0x0, 0x13447, 0xa,
  0x13456, 0x0, 0x16af0, 0xa, 0x16af5, 0x0, 0x16b30, 0xa, 0x16b37, 0x0, 0x16f4f, 0xa, 0x16f50, 0x0,
  0x16f8f, 0xa, 0x16f93, 0x0, 0x16fe2, 0x8, 0x16fe3, 0x0, 0x16fe4, 0xa, 0x16fe5, 0x0, 0x1bc9d, 0xa,
  0x1bc9f, 0x0, 0x1bca0, 0x9, 0x1bca4, 0x0, 0x1cf00, 0xa, 0x1cf2e, 0x0, 0x1cf30, 0xa, 0x1cf47, 0x0,
  0x1d167, 0xa, 0x1d16a, 0x0, 0x1d173, 0x9, 0x1d17b, 0xa, 0x1d183, 0x0, 0x1d185, 0xa, 0x1d18c, 0x0,
  0x1d1aa, 0xa, 0x1d1ae, 0x0, 0x1d1e9, 0x8, 0x1d1eb, 0x0, 0x1d200, 0x8, 0x1d242, 0xa, 0x1d245, 0x8,
  0x1d246, 0x0, 0x1d300, 0x8, 0x1d357, 0x0, 0x1d6db, 0x8, 0x1d6dc, 0x0, 0x1d715, 0x8, 0x1d716, 0x0,
  0x1d74f, 0x8, 0x1d750, 0x0, 0x1d789, 0x8, 0x1d78a, 0x0, 0x1d7c3, 0x8, 0x1d7c4, 0x0, 0x1d7ce, 0x3,
  0x1d800, 0x0, 0x1da00, 0xa, 0x1da37, 0x0, 0x1da3b, 0xa, 0x1da6d, 0x0, 0x1da75, 0xa, 0x1da76, 0x0,
  0x1da84, 0xa, 0x1da85, 0x0, 0x1da9b, 0xa, 0x1daa0, 0x0, 0x1daa1, 0xa, 0x1dab0, 0x0, 0x1e000, 0xa,
  0x1e007, 0x0, 0x1e008, 0xa, 0x1e019, 0x0, 0x1e01b, 0xa, 0x1e022, 0x0, 0x1e023, 0xa, 0x1e025, 0x0,
  0x1e026, 0xa, 0x1e02b, 0x0, 0x1e08f, 0xa, 0x1e090, 0x0, 0x1e130, 0xa, 0x1e137, 0x0, 0x1e2ae, 0xa,
  0x1e2af, 0x0, 0x1e2ec, 0xa, 0x1e2f0, 0x0, 0x1e2ff, 0x6, 0x1e300, 0x0, 0x1e4ec, 0xa, 0x1e4f0, 0x0,
  0x1e800, 0x1, 0x1e8d0, 0xa, 0x1e8d7, 0x1, 0x1e944, 0xa, 0x1e94b, 0x1, 0x1ec70, 0x2, 0x1ecc0, 0x1,
  0x1ed00, 0x2, 0x1ed50, 0x1, 0x1ee00, 0x2, 0x1eef0, 0x8, 0x1eef2, 0x2, 0x1ef00, 0x1, 0x1f000, 0x8,
  0x1f02c, 0x0, 0x1f030, 0x8, 0x1f094, 0x0, 0x1f0a0, 0x8, 0x1f0af, 0x0, 0x1f0b1, 0x8, 0x1f0c0, 0x0,
  0x1f0c1, 0x8, 0x1f0d0, 0x0, 0x1f0d1, 0x8, 0x1f0f6, 0x0, 0x1f100, 0x3, 0x1f10b, 0x8, 0x1f110, 0x0,
  0x1f12f, 0x8, 0x1f130, 0x0, 0x1f16a, 0x8, 0x1f170, 0x0, 0x1f1ad, 0x8, 0x1f1ae, 0x0, 0x1f260, 0x8,
  0x1f266, 0x0, 0x1f300, 0x8, 0x1f6d8, 0x0, 0x1f6dc, 0x8, 0x1f6ed, 0x0, 0x1f6f0, 0x8, 0x1f6fd, 0x0,
  0x1f700, 0x8, 0x1f777, 0x0, 0x1f77b, 0x8, 0x1f7da, 0x0, 0x1f7e0, 0x8, 0x1f7ec, 0x0, 0x1f7f0, 0x8,
  0x1f7f1, 0x0, 0x1f800, 0x8, 0x1f80c, 0x0, 0x1f810, 0x8, 0x1f848, 0x0, 0x1f850, 0x8, 0x1f85a, 0x0,
  0x1f860, 0x8, 0x1f888, 0x0, 0x1f890, 0x8, 0x1f8ae, 0x0, 0x1f8b0, 0x8, 0x1f8b2, 0x0, 0x1f900, 0x8,
  0x1fa54, 0x0, 0x1fa60, 0x8, 0x1fa6e, 0x0, 0x1fa70, 0x8, 0x1fa7d, 0x0, 0x1fa80, 0x8, 0x1fa89, 0x0,
  0x1fa90, 0x8, 0x1fabe, 0x0, 0x1fabf, 0x8, 0x1fac6, 0x0, 0x1face, 0x8, 0x1fadc, 0x0, 0x1fae0, 0x8,
  0x1fae9, 0x0, 0x1faf0, 0x8, 0x1faf9, 0x0, 0x1fb00, 0x8, 0x1fb93, 0x0, 0x1fb94, 0x8, 0x1fbcb, 0x0,
  0x1fbf0, 0x3, 0x1fbfa, 0x0, 0x1fffe, 0x9, 0x20000, 0x0, 0x2fffe, 0x9, 0x30000, 0x0, 0x3fffe, 0x9,
  0x40000, 0x0, 0x4fffe, 0x9, 0x50000, 0x0, 0x5fffe, 0x9, 0x60000, 0x0, 0x6fffe, 0x9, 0x70000, 0x0,
  0x7fffe, 0x9, 0x80000, 0x0, 0x8fffe, 0x9, 0x90000, 0x0, 0x9fffe, 0x9, 0xa0000, 0x0, 0xafffe, 0x9,
  0xb0000, 0x0, 0xbfffe, 0x9, 0xc0000, 0x0, 0xcfffe, 0x9, 0xd0000, 0x0, 0xdfffe, 0x9, 0xe0100, 0xa,
  0xe01f0, 0x9, 0xe1000, 0x0, 0xefffe, 0x9, 0xf0000, 0x0, 0xffffe, 0x9, 0x100000, 0x0, 0x10fffe,
  0x9, 0x110000, 0x0]

/-- Where each plateau of the joining begins, and that joining by its number, in turn. -/
def joiningData : List Nat := [
  0x0, 0x0, 0xad, 0x4, 0xae, 0x0, 0x300, 0x4, 0x370, 0x0, 0x483, 0x4, 0x48a, 0x0, 0x591, 0x4, 0x5be,
  0x0, 0x5bf, 0x4, 0x5c0, 0x0, 0x5c1, 0x4, 0x5c3, 0x0, 0x5c4, 0x4, 0x5c6, 0x0, 0x5c7, 0x4, 0x5c8,
  0x0, 0x610, 0x4, 0x61b, 0x0, 0x61c, 0x4, 0x61d, 0x0, 0x620, 0x1, 0x621, 0x0, 0x622, 0x3, 0x626,
  0x1, 0x627, 0x3, 0x628, 0x1, 0x629, 0x3, 0x62a, 0x1, 0x62f, 0x3, 0x633, 0x1, 0x640, 0x0, 0x641,
  0x1, 0x648, 0x3, 0x649, 0x1, 0x64b, 0x4, 0x660, 0x0, 0x66e, 0x1, 0x670, 0x4, 0x671, 0x3, 0x674,
  0x0, 0x675, 0x3, 0x678, 0x1, 0x688, 0x3, 0x69a, 0x1, 0x6c0, 0x3, 0x6c1, 0x1, 0x6c3, 0x3, 0x6cc,
  0x1, 0x6cd, 0x3, 0x6ce, 0x1, 0x6cf, 0x3, 0x6d0, 0x1, 0x6d2, 0x3, 0x6d4, 0x0, 0x6d5, 0x3, 0x6d6,
  0x4, 0x6dd, 0x0, 0x6df, 0x4, 0x6e5, 0x0, 0x6e7, 0x4, 0x6e9, 0x0, 0x6ea, 0x4, 0x6ee, 0x3, 0x6f0,
  0x0, 0x6fa, 0x1, 0x6fd, 0x0, 0x6ff, 0x1, 0x700, 0x0, 0x70f, 0x4, 0x710, 0x3, 0x711, 0x4, 0x712,
  0x1, 0x715, 0x3, 0x71a, 0x1, 0x71e, 0x3, 0x71f, 0x1, 0x728, 0x3, 0x729, 0x1, 0x72a, 0x3, 0x72b,
  0x1, 0x72c, 0x3, 0x72d, 0x1, 0x72f, 0x3, 0x730, 0x4, 0x74b, 0x0, 0x74d, 0x3, 0x74e, 0x1, 0x759,
  0x3, 0x75c, 0x1, 0x76b, 0x3, 0x76d, 0x1, 0x771, 0x3, 0x772, 0x1, 0x773, 0x3, 0x775, 0x1, 0x778,
  0x3, 0x77a, 0x1, 0x780, 0x0, 0x7a6, 0x4, 0x7b1, 0x0, 0x7ca, 0x1, 0x7eb, 0x4, 0x7f4, 0x0, 0x7fd,
  0x4, 0x7fe, 0x0, 0x816, 0x4, 0x81a, 0x0, 0x81b, 0x4, 0x824, 0x0, 0x825, 0x4, 0x828, 0x0, 0x829,
  0x4, 0x82e, 0x0, 0x840, 0x3, 0x841, 0x1, 0x846, 0x3, 0x848, 0x1, 0x849, 0x3, 0x84a, 0x1, 0x854,
  0x3, 0x855, 0x1, 0x856, 0x3, 0x859, 0x4, 0x85c, 0x0, 0x860, 0x1, 0x861, 0x0, 0x862, 0x1, 0x866,
  0x0, 0x867, 0x3, 0x868, 0x1, 0x869, 0x3, 0x86b, 0x0, 0x870, 0x3, 0x883, 0x0, 0x886, 0x1, 0x887,
  0x0, 0x889, 0x1, 0x88e, 0x3, 0x88f, 0x0, 0x898, 0x4, 0x8a0, 0x1, 0x8aa, 0x3, 0x8ad, 0x0, 0x8ae,
  0x3, 0x8af, 0x1, 0x8b1, 0x3, 0x8b3, 0x1, 0x8b9, 0x3, 0x8ba, 0x1, 0x8c9, 0x0, 0x8ca, 0x4, 0x8e2,
  0x0, 0x8e3, 0x4, 0x903, 0x0, 0x93a, 0x4, 0x93b, 0x0, 0x93c, 0x4, 0x93d, 0x0, 0x941, 0x4, 0x949,
  0x0, 0x94d, 0x4, 0x94e, 0x0, 0x951, 0x4, 0x958, 0x0, 0x962, 0x4, 0x964, 0x0, 0x981, 0x4, 0x982,
  0x0, 0x9bc, 0x4, 0x9bd, 0x0, 0x9c1, 0x4, 0x9c5, 0x0, 0x9cd, 0x4, 0x9ce, 0x0, 0x9e2, 0x4, 0x9e4,
  0x0, 0x9fe, 0x4, 0x9ff, 0x0, 0xa01, 0x4, 0xa03, 0x0, 0xa3c, 0x4, 0xa3d, 0x0, 0xa41, 0x4, 0xa43,
  0x0, 0xa47, 0x4, 0xa49, 0x0, 0xa4b, 0x4, 0xa4e, 0x0, 0xa51, 0x4, 0xa52, 0x0, 0xa70, 0x4, 0xa72,
  0x0, 0xa75, 0x4, 0xa76, 0x0, 0xa81, 0x4, 0xa83, 0x0, 0xabc, 0x4, 0xabd, 0x0, 0xac1, 0x4, 0xac6,
  0x0, 0xac7, 0x4, 0xac9, 0x0, 0xacd, 0x4, 0xace, 0x0, 0xae2, 0x4, 0xae4, 0x0, 0xafa, 0x4, 0xb00,
  0x0, 0xb01, 0x4, 0xb02, 0x0, 0xb3c, 0x4, 0xb3d, 0x0, 0xb3f, 0x4, 0xb40, 0x0, 0xb41, 0x4, 0xb45,
  0x0, 0xb4d, 0x4, 0xb4e, 0x0, 0xb55, 0x4, 0xb57, 0x0, 0xb62, 0x4, 0xb64, 0x0, 0xb82, 0x4, 0xb83,
  0x0, 0xbc0, 0x4, 0xbc1, 0x0, 0xbcd, 0x4, 0xbce, 0x0, 0xc00, 0x4, 0xc01, 0x0, 0xc04, 0x4, 0xc05,
  0x0, 0xc3c, 0x4, 0xc3d, 0x0, 0xc3e, 0x4, 0xc41, 0x0, 0xc46, 0x4, 0xc49, 0x0, 0xc4a, 0x4, 0xc4e,
  0x0, 0xc55, 0x4, 0xc57, 0x0, 0xc62, 0x4, 0xc64, 0x0, 0xc81, 0x4, 0xc82, 0x0, 0xcbc, 0x4, 0xcbd,
  0x0, 0xcbf, 0x4, 0xcc0, 0x0, 0xcc6, 0x4, 0xcc7, 0x0, 0xccc, 0x4, 0xcce, 0x0, 0xce2, 0x4, 0xce4,
  0x0, 0xd00, 0x4, 0xd02, 0x0, 0xd3b, 0x4, 0xd3d, 0x0, 0xd41, 0x4, 0xd45, 0x0, 0xd4d, 0x4, 0xd4e,
  0x0, 0xd62, 0x4, 0xd64, 0x0, 0xd81, 0x4, 0xd82, 0x0, 0xdca, 0x4, 0xdcb, 0x0, 0xdd2, 0x4, 0xdd5,
  0x0, 0xdd6, 0x4, 0xdd7, 0x0, 0xe31, 0x4, 0xe32, 0x0, 0xe34, 0x4, 0xe3b, 0x0, 0xe47, 0x4, 0xe4f,
  0x0, 0xeb1, 0x4, 0xeb2, 0x0, 0xeb4, 0x4, 0xebd, 0x0, 0xec8, 0x4, 0xecf, 0x0, 0xf18, 0x4, 0xf1a,
  0x0, 0xf35, 0x4, 0xf36, 0x0, 0xf37, 0x4, 0xf38, 0x0, 0xf39, 0x4, 0xf3a, 0x0, 0xf71, 0x4, 0xf7f,
  0x0, 0xf80, 0x4, 0xf85, 0x0, 0xf86, 0x4, 0xf88, 0x0, 0xf8d, 0x4, 0xf98, 0x0, 0xf99, 0x4, 0xfbd,
  0x0, 0xfc6, 0x4, 0xfc7, 0x0, 0x102d, 0x4, 0x1031, 0x0, 0x1032, 0x4, 0x1038, 0x0, 0x1039, 0x4,
  0x103b, 0x0, 0x103d, 0x4, 0x103f, 0x0, 0x1058, 0x4, 0x105a, 0x0, 0x105e, 0x4, 0x1061, 0x0, 0x1071,
  0x4, 0x1075, 0x0, 0x1082, 0x4, 0x1083, 0x0, 0x1085, 0x4, 0x1087, 0x0, 0x108d, 0x4, 0x108e, 0x0,
  0x109d, 0x4, 0x109e, 0x0, 0x135d, 0x4, 0x1360, 0x0, 0x1712, 0x4, 0x1715, 0x0, 0x1732, 0x4, 0x1734,
  0x0, 0x1752, 0x4, 0x1754, 0x0, 0x1772, 0x4, 0x1774, 0x0, 0x17b4, 0x4, 0x17b6, 0x0, 0x17b7, 0x4,
  0x17be, 0x0, 0x17c6, 0x4, 0x17c7, 0x0, 0x17c9, 0x4, 0x17d4, 0x0, 0x17dd, 0x4, 0x17de, 0x0, 0x1807,
  0x1, 0x1808, 0x0, 0x180b, 0x4, 0x180e, 0x0, 0x180f, 0x4, 0x1810, 0x0, 0x1820, 0x1, 0x1879, 0x0,
  0x1885, 0x4, 0x1887, 0x1, 0x18a9, 0x4, 0x18aa, 0x1, 0x18ab, 0x0, 0x1920, 0x4, 0x1923, 0x0, 0x1927,
  0x4, 0x1929, 0x0, 0x1932, 0x4, 0x1933, 0x0, 0x1939, 0x4, 0x193c, 0x0, 0x1a17, 0x4, 0x1a19, 0x0,
  0x1a1b, 0x4, 0x1a1c, 0x0, 0x1a56, 0x4, 0x1a57, 0x0, 0x1a58, 0x4, 0x1a5f, 0x0, 0x1a60, 0x4, 0x1a61,
  0x0, 0x1a62, 0x4, 0x1a63, 0x0, 0x1a65, 0x4, 0x1a6d, 0x0, 0x1a73, 0x4, 0x1a7d, 0x0, 0x1a7f, 0x4,
  0x1a80, 0x0, 0x1ab0, 0x4, 0x1acf, 0x0, 0x1b00, 0x4, 0x1b04, 0x0, 0x1b34, 0x4, 0x1b35, 0x0, 0x1b36,
  0x4, 0x1b3b, 0x0, 0x1b3c, 0x4, 0x1b3d, 0x0, 0x1b42, 0x4, 0x1b43, 0x0, 0x1b6b, 0x4, 0x1b74, 0x0,
  0x1b80, 0x4, 0x1b82, 0x0, 0x1ba2, 0x4, 0x1ba6, 0x0, 0x1ba8, 0x4, 0x1baa, 0x0, 0x1bab, 0x4, 0x1bae,
  0x0, 0x1be6, 0x4, 0x1be7, 0x0, 0x1be8, 0x4, 0x1bea, 0x0, 0x1bed, 0x4, 0x1bee, 0x0, 0x1bef, 0x4,
  0x1bf2, 0x0, 0x1c2c, 0x4, 0x1c34, 0x0, 0x1c36, 0x4, 0x1c38, 0x0, 0x1cd0, 0x4, 0x1cd3, 0x0, 0x1cd4,
  0x4, 0x1ce1, 0x0, 0x1ce2, 0x4, 0x1ce9, 0x0, 0x1ced, 0x4, 0x1cee, 0x0, 0x1cf4, 0x4, 0x1cf5, 0x0,
  0x1cf8, 0x4, 0x1cfa, 0x0, 0x1dc0, 0x4, 0x1e00, 0x0, 0x200b, 0x4, 0x200c, 0x0, 0x200e, 0x4, 0x2010,
  0x0, 0x202a, 0x4, 0x202f, 0x0, 0x2060, 0x4, 0x2065, 0x0, 0x206a, 0x4, 0x2070, 0x0, 0x20d0, 0x4,
  0x20f1, 0x0, 0x2cef, 0x4, 0x2cf2, 0x0, 0x2d7f, 0x4, 0x2d80, 0x0, 0x2de0, 0x4, 0x2e00, 0x0, 0x302a,
  0x4, 0x302e, 0x0, 0x3099, 0x4, 0x309b, 0x0, 0xa66f, 0x4, 0xa673, 0x0, 0xa674, 0x4, 0xa67e, 0x0,
  0xa69e, 0x4, 0xa6a0, 0x0, 0xa6f0, 0x4, 0xa6f2, 0x0, 0xa802, 0x4, 0xa803, 0x0, 0xa806, 0x4, 0xa807,
  0x0, 0xa80b, 0x4, 0xa80c, 0x0, 0xa825, 0x4, 0xa827, 0x0, 0xa82c, 0x4, 0xa82d, 0x0, 0xa840, 0x1,
  0xa872, 0x2, 0xa873, 0x0, 0xa8c4, 0x4, 0xa8c6, 0x0, 0xa8e0, 0x4, 0xa8f2, 0x0, 0xa8ff, 0x4, 0xa900,
  0x0, 0xa926, 0x4, 0xa92e, 0x0, 0xa947, 0x4, 0xa952, 0x0, 0xa980, 0x4, 0xa983, 0x0, 0xa9b3, 0x4,
  0xa9b4, 0x0, 0xa9b6, 0x4, 0xa9ba, 0x0, 0xa9bc, 0x4, 0xa9be, 0x0, 0xa9e5, 0x4, 0xa9e6, 0x0, 0xaa29,
  0x4, 0xaa2f, 0x0, 0xaa31, 0x4, 0xaa33, 0x0, 0xaa35, 0x4, 0xaa37, 0x0, 0xaa43, 0x4, 0xaa44, 0x0,
  0xaa4c, 0x4, 0xaa4d, 0x0, 0xaa7c, 0x4, 0xaa7d, 0x0, 0xaab0, 0x4, 0xaab1, 0x0, 0xaab2, 0x4, 0xaab5,
  0x0, 0xaab7, 0x4, 0xaab9, 0x0, 0xaabe, 0x4, 0xaac0, 0x0, 0xaac1, 0x4, 0xaac2, 0x0, 0xaaec, 0x4,
  0xaaee, 0x0, 0xaaf6, 0x4, 0xaaf7, 0x0, 0xabe5, 0x4, 0xabe6, 0x0, 0xabe8, 0x4, 0xabe9, 0x0, 0xabed,
  0x4, 0xabee, 0x0, 0xfb1e, 0x4, 0xfb1f, 0x0, 0xfe00, 0x4, 0xfe10, 0x0, 0xfe20, 0x4, 0xfe30, 0x0,
  0xfeff, 0x4, 0xff00, 0x0, 0xfff9, 0x4, 0xfffc, 0x0, 0x101fd, 0x4, 0x101fe, 0x0, 0x102e0, 0x4,
  0x102e1, 0x0, 0x10376, 0x4, 0x1037b, 0x0, 0x10a01, 0x4, 0x10a04, 0x0, 0x10a05, 0x4, 0x10a07, 0x0,
  0x10a0c, 0x4, 0x10a10, 0x0, 0x10a38, 0x4, 0x10a3b, 0x0, 0x10a3f, 0x4, 0x10a40, 0x0, 0x10ac0, 0x1,
  0x10ac5, 0x3, 0x10ac6, 0x0, 0x10ac7, 0x3, 0x10ac8, 0x0, 0x10ac9, 0x3, 0x10acb, 0x0, 0x10acd, 0x2,
  0x10ace, 0x3, 0x10ad3, 0x1, 0x10ad7, 0x2, 0x10ad8, 0x1, 0x10add, 0x3, 0x10ade, 0x1, 0x10ae1, 0x3,
  0x10ae2, 0x0, 0x10ae4, 0x3, 0x10ae5, 0x4, 0x10ae7, 0x0, 0x10aeb, 0x1, 0x10aef, 0x3, 0x10af0, 0x0,
  0x10b80, 0x1, 0x10b81, 0x3, 0x10b82, 0x1, 0x10b83, 0x3, 0x10b86, 0x1, 0x10b89, 0x3, 0x10b8a, 0x1,
  0x10b8c, 0x3, 0x10b8d, 0x1, 0x10b8e, 0x3, 0x10b90, 0x1, 0x10b91, 0x3, 0x10b92, 0x0, 0x10ba9, 0x3,
  0x10bad, 0x1, 0x10baf, 0x0, 0x10d00, 0x2, 0x10d01, 0x1, 0x10d22, 0x3, 0x10d23, 0x1, 0x10d24, 0x4,
  0x10d28, 0x0, 0x10eab, 0x4, 0x10ead, 0x0, 0x10efd, 0x4, 0x10f00, 0x0, 0x10f30, 0x1, 0x10f33, 0x3,
  0x10f34, 0x1, 0x10f45, 0x0, 0x10f46, 0x4, 0x10f51, 0x1, 0x10f54, 0x3, 0x10f55, 0x0, 0x10f70, 0x1,
  0x10f74, 0x3, 0x10f76, 0x1, 0x10f82, 0x4, 0x10f86, 0x0, 0x10fb0, 0x1, 0x10fb1, 0x0, 0x10fb2, 0x1,
  0x10fb4, 0x3, 0x10fb7, 0x0, 0x10fb8, 0x1, 0x10fb9, 0x3, 0x10fbb, 0x1, 0x10fbd, 0x3, 0x10fbe, 0x1,
  0x10fc0, 0x0, 0x10fc1, 0x1, 0x10fc2, 0x3, 0x10fc4, 0x1, 0x10fc5, 0x0, 0x10fc9, 0x3, 0x10fca, 0x1,
  0x10fcb, 0x2, 0x10fcc, 0x0, 0x11001, 0x4, 0x11002, 0x0, 0x11038, 0x4, 0x11047, 0x0, 0x11070, 0x4,
  0x11071, 0x0, 0x11073, 0x4, 0x11075, 0x0, 0x1107f, 0x4, 0x11082, 0x0, 0x110b3, 0x4, 0x110b7, 0x0,
  0x110b9, 0x4, 0x110bb, 0x0, 0x110c2, 0x4, 0x110c3, 0x0, 0x11100, 0x4, 0x11103, 0x0, 0x11127, 0x4,
  0x1112c, 0x0, 0x1112d, 0x4, 0x11135, 0x0, 0x11173, 0x4, 0x11174, 0x0, 0x11180, 0x4, 0x11182, 0x0,
  0x111b6, 0x4, 0x111bf, 0x0, 0x111c9, 0x4, 0x111cd, 0x0, 0x111cf, 0x4, 0x111d0, 0x0, 0x1122f, 0x4,
  0x11232, 0x0, 0x11234, 0x4, 0x11235, 0x0, 0x11236, 0x4, 0x11238, 0x0, 0x1123e, 0x4, 0x1123f, 0x0,
  0x11241, 0x4, 0x11242, 0x0, 0x112df, 0x4, 0x112e0, 0x0, 0x112e3, 0x4, 0x112eb, 0x0, 0x11300, 0x4,
  0x11302, 0x0, 0x1133b, 0x4, 0x1133d, 0x0, 0x11340, 0x4, 0x11341, 0x0, 0x11366, 0x4, 0x1136d, 0x0,
  0x11370, 0x4, 0x11375, 0x0, 0x11438, 0x4, 0x11440, 0x0, 0x11442, 0x4, 0x11445, 0x0, 0x11446, 0x4,
  0x11447, 0x0, 0x1145e, 0x4, 0x1145f, 0x0, 0x114b3, 0x4, 0x114b9, 0x0, 0x114ba, 0x4, 0x114bb, 0x0,
  0x114bf, 0x4, 0x114c1, 0x0, 0x114c2, 0x4, 0x114c4, 0x0, 0x115b2, 0x4, 0x115b6, 0x0, 0x115bc, 0x4,
  0x115be, 0x0, 0x115bf, 0x4, 0x115c1, 0x0, 0x115dc, 0x4, 0x115de, 0x0, 0x11633, 0x4, 0x1163b, 0x0,
  0x1163d, 0x4, 0x1163e, 0x0, 0x1163f, 0x4, 0x11641, 0x0, 0x116ab, 0x4, 0x116ac, 0x0, 0x116ad, 0x4,
  0x116ae, 0x0, 0x116b0, 0x4, 0x116b6, 0x0, 0x116b7, 0x4, 0x116b8, 0x0, 0x1171d, 0x4, 0x11720, 0x0,
  0x11722, 0x4, 0x11726, 0x0, 0x11727, 0x4, 0x1172c, 0x0, 0x1182f, 0x4, 0x11838, 0x0, 0x11839, 0x4,
  0x1183b, 0x0, 0x1193b, 0x4, 0x1193d, 0x0, 0x1193e, 0x4, 0x1193f, 0x0, 0x11943, 0x4, 0x11944, 0x0,
  0x119d4, 0x4, 0x119d8, 0x0, 0x119da, 0x4, 0x119dc, 0x0, 0x119e0, 0x4, 0x119e1, 0x0, 0x11a01, 0x4,
  0x11a0b, 0x0, 0x11a33, 0x4, 0x11a39, 0x0, 0x11a3b, 0x4, 0x11a3f, 0x0, 0x11a47, 0x4, 0x11a48, 0x0,
  0x11a51, 0x4, 0x11a57, 0x0, 0x11a59, 0x4, 0x11a5c, 0x0, 0x11a8a, 0x4, 0x11a97, 0x0, 0x11a98, 0x4,
  0x11a9a, 0x0, 0x11c30, 0x4, 0x11c37, 0x0, 0x11c38, 0x4, 0x11c3e, 0x0, 0x11c3f, 0x4, 0x11c40, 0x0,
  0x11c92, 0x4, 0x11ca8, 0x0, 0x11caa, 0x4, 0x11cb1, 0x0, 0x11cb2, 0x4, 0x11cb4, 0x0, 0x11cb5, 0x4,
  0x11cb7, 0x0, 0x11d31, 0x4, 0x11d37, 0x0, 0x11d3a, 0x4, 0x11d3b, 0x0, 0x11d3c, 0x4, 0x11d3e, 0x0,
  0x11d3f, 0x4, 0x11d46, 0x0, 0x11d47, 0x4, 0x11d48, 0x0, 0x11d90, 0x4, 0x11d92, 0x0, 0x11d95, 0x4,
  0x11d96, 0x0, 0x11d97, 0x4, 0x11d98, 0x0, 0x11ef3, 0x4, 0x11ef5, 0x0, 0x11f00, 0x4, 0x11f02, 0x0,
  0x11f36, 0x4, 0x11f3b, 0x0, 0x11f40, 0x4, 0x11f41, 0x0, 0x11f42, 0x4, 0x11f43, 0x0, 0x13430, 0x4,
  0x13441, 0x0, 0x13447, 0x4, 0x13456, 0x0, 0x16af0, 0x4, 0x16af5, 0x0, 0x16b30, 0x4, 0x16b37, 0x0,
  0x16f4f, 0x4, 0x16f50, 0x0, 0x16f8f, 0x4, 0x16f93, 0x0, 0x16fe4, 0x4, 0x16fe5, 0x0, 0x1bc9d, 0x4,
  0x1bc9f, 0x0, 0x1bca0, 0x4, 0x1bca4, 0x0, 0x1cf00, 0x4, 0x1cf2e, 0x0, 0x1cf30, 0x4, 0x1cf47, 0x0,
  0x1d167, 0x4, 0x1d16a, 0x0, 0x1d173, 0x4, 0x1d183, 0x0, 0x1d185, 0x4, 0x1d18c, 0x0, 0x1d1aa, 0x4,
  0x1d1ae, 0x0, 0x1d242, 0x4, 0x1d245, 0x0, 0x1da00, 0x4, 0x1da37, 0x0, 0x1da3b, 0x4, 0x1da6d, 0x0,
  0x1da75, 0x4, 0x1da76, 0x0, 0x1da84, 0x4, 0x1da85, 0x0, 0x1da9b, 0x4, 0x1daa0, 0x0, 0x1daa1, 0x4,
  0x1dab0, 0x0, 0x1e000, 0x4, 0x1e007, 0x0, 0x1e008, 0x4, 0x1e019, 0x0, 0x1e01b, 0x4, 0x1e022, 0x0,
  0x1e023, 0x4, 0x1e025, 0x0, 0x1e026, 0x4, 0x1e02b, 0x0, 0x1e08f, 0x4, 0x1e090, 0x0, 0x1e130, 0x4,
  0x1e137, 0x0, 0x1e2ae, 0x4, 0x1e2af, 0x0, 0x1e2ec, 0x4, 0x1e2f0, 0x0, 0x1e4ec, 0x4, 0x1e4f0, 0x0,
  0x1e8d0, 0x4, 0x1e8d7, 0x0, 0x1e900, 0x1, 0x1e944, 0x4, 0x1e94c, 0x0, 0xe0001, 0x4, 0xe0002, 0x0,
  0xe0020, 0x4, 0xe0080, 0x0, 0xe0100, 0x4, 0xe01f0, 0x0]

/-- Bounds of the runs of marks. -/
def markData : List Nat := [
  0x300, 0x370, 0x483, 0x48a, 0x591, 0x5be, 0x5bf, 0x5c0, 0x5c1, 0x5c3, 0x5c4, 0x5c6, 0x5c7, 0x5c8,
  0x610, 0x61b, 0x64b, 0x660, 0x670, 0x671, 0x6d6, 0x6dd, 0x6df, 0x6e5, 0x6e7, 0x6e9, 0x6ea, 0x6ee,
  0x711, 0x712, 0x730, 0x74b, 0x7a6, 0x7b1, 0x7eb, 0x7f4, 0x7fd, 0x7fe, 0x816, 0x81a, 0x81b, 0x824,
  0x825, 0x828, 0x829, 0x82e, 0x859, 0x85c, 0x898, 0x8a0, 0x8ca, 0x8e2, 0x8e3, 0x904, 0x93a, 0x93d,
  0x93e, 0x950, 0x951, 0x958, 0x962, 0x964, 0x981, 0x984, 0x9bc, 0x9bd, 0x9be, 0x9c5, 0x9c7, 0x9c9,
  0x9cb, 0x9ce, 0x9d7, 0x9d8, 0x9e2, 0x9e4, 0x9fe, 0x9ff, 0xa01, 0xa04, 0xa3c, 0xa3d, 0xa3e, 0xa43,
  0xa47, 0xa49, 0xa4b, 0xa4e, 0xa51, 0xa52, 0xa70, 0xa72, 0xa75, 0xa76, 0xa81, 0xa84, 0xabc, 0xabd,
  0xabe, 0xac6, 0xac7, 0xaca, 0xacb, 0xace, 0xae2, 0xae4, 0xafa, 0xb00, 0xb01, 0xb04, 0xb3c, 0xb3d,
  0xb3e, 0xb45, 0xb47, 0xb49, 0xb4b, 0xb4e, 0xb55, 0xb58, 0xb62, 0xb64, 0xb82, 0xb83, 0xbbe, 0xbc3,
  0xbc6, 0xbc9, 0xbca, 0xbce, 0xbd7, 0xbd8, 0xc00, 0xc05, 0xc3c, 0xc3d, 0xc3e, 0xc45, 0xc46, 0xc49,
  0xc4a, 0xc4e, 0xc55, 0xc57, 0xc62, 0xc64, 0xc81, 0xc84, 0xcbc, 0xcbd, 0xcbe, 0xcc5, 0xcc6, 0xcc9,
  0xcca, 0xcce, 0xcd5, 0xcd7, 0xce2, 0xce4, 0xcf3, 0xcf4, 0xd00, 0xd04, 0xd3b, 0xd3d, 0xd3e, 0xd45,
  0xd46, 0xd49, 0xd4a, 0xd4e, 0xd57, 0xd58, 0xd62, 0xd64, 0xd81, 0xd84, 0xdca, 0xdcb, 0xdcf, 0xdd5,
  0xdd6, 0xdd7, 0xdd8, 0xde0, 0xdf2, 0xdf4, 0xe31, 0xe32, 0xe34, 0xe3b, 0xe47, 0xe4f, 0xeb1, 0xeb2,
  0xeb4, 0xebd, 0xec8, 0xecf, 0xf18, 0xf1a, 0xf35, 0xf36, 0xf37, 0xf38, 0xf39, 0xf3a, 0xf3e, 0xf40,
  0xf71, 0xf85, 0xf86, 0xf88, 0xf8d, 0xf98, 0xf99, 0xfbd, 0xfc6, 0xfc7, 0x102b, 0x103f, 0x1056,
  0x105a, 0x105e, 0x1061, 0x1062, 0x1065, 0x1067, 0x106e, 0x1071, 0x1075, 0x1082, 0x108e, 0x108f,
  0x1090, 0x109a, 0x109e, 0x135d, 0x1360, 0x1712, 0x1716, 0x1732, 0x1735, 0x1752, 0x1754, 0x1772,
  0x1774, 0x17b4, 0x17d4, 0x17dd, 0x17de, 0x180b, 0x180e, 0x180f, 0x1810, 0x1885, 0x1887, 0x18a9,
  0x18aa, 0x1920, 0x192c, 0x1930, 0x193c, 0x1a17, 0x1a1c, 0x1a55, 0x1a5f, 0x1a60, 0x1a7d, 0x1a7f,
  0x1a80, 0x1ab0, 0x1acf, 0x1b00, 0x1b05, 0x1b34, 0x1b45, 0x1b6b, 0x1b74, 0x1b80, 0x1b83, 0x1ba1,
  0x1bae, 0x1be6, 0x1bf4, 0x1c24, 0x1c38, 0x1cd0, 0x1cd3, 0x1cd4, 0x1ce9, 0x1ced, 0x1cee, 0x1cf4,
  0x1cf5, 0x1cf7, 0x1cfa, 0x1dc0, 0x1e00, 0x20d0, 0x20f1, 0x2cef, 0x2cf2, 0x2d7f, 0x2d80, 0x2de0,
  0x2e00, 0x302a, 0x3030, 0x3099, 0x309b, 0xa66f, 0xa673, 0xa674, 0xa67e, 0xa69e, 0xa6a0, 0xa6f0,
  0xa6f2, 0xa802, 0xa803, 0xa806, 0xa807, 0xa80b, 0xa80c, 0xa823, 0xa828, 0xa82c, 0xa82d, 0xa880,
  0xa882, 0xa8b4, 0xa8c6, 0xa8e0, 0xa8f2, 0xa8ff, 0xa900, 0xa926, 0xa92e, 0xa947, 0xa954, 0xa980,
  0xa984, 0xa9b3, 0xa9c1, 0xa9e5, 0xa9e6, 0xaa29, 0xaa37, 0xaa43, 0xaa44, 0xaa4c, 0xaa4e, 0xaa7b,
  0xaa7e, 0xaab0, 0xaab1, 0xaab2, 0xaab5, 0xaab7, 0xaab9, 0xaabe, 0xaac0, 0xaac1, 0xaac2, 0xaaeb,
  0xaaf0, 0xaaf5, 0xaaf7, 0xabe3, 0xabeb, 0xabec, 0xabee, 0xfb1e, 0xfb1f, 0xfe00, 0xfe10, 0xfe20,
  0xfe30, 0x101fd, 0x101fe, 0x102e0, 0x102e1, 0x10376, 0x1037b, 0x10a01, 0x10a04, 0x10a05, 0x10a07,
  0x10a0c, 0x10a10, 0x10a38, 0x10a3b, 0x10a3f, 0x10a40, 0x10ae5, 0x10ae7, 0x10d24, 0x10d28, 0x10eab,
  0x10ead, 0x10efd, 0x10f00, 0x10f46, 0x10f51, 0x10f82, 0x10f86, 0x11000, 0x11003, 0x11038, 0x11047,
  0x11070, 0x11071, 0x11073, 0x11075, 0x1107f, 0x11083, 0x110b0, 0x110bb, 0x110c2, 0x110c3, 0x11100,
  0x11103, 0x11127, 0x11135, 0x11145, 0x11147, 0x11173, 0x11174, 0x11180, 0x11183, 0x111b3, 0x111c1,
  0x111c9, 0x111cd, 0x111ce, 0x111d0, 0x1122c, 0x11238, 0x1123e, 0x1123f, 0x11241, 0x11242, 0x112df,
  0x112eb, 0x11300, 0x11304, 0x1133b, 0x1133d, 0x1133e, 0x11345, 0x11347, 0x11349, 0x1134b, 0x1134e,
  0x11357, 0x11358, 0x11362, 0x11364, 0x11366, 0x1136d, 0x11370, 0x11375, 0x11435, 0x11447, 0x1145e,
  0x1145f, 0x114b0, 0x114c4, 0x115af, 0x115b6, 0x115b8, 0x115c1, 0x115dc, 0x115de, 0x11630, 0x11641,
  0x116ab, 0x116b8, 0x1171d, 0x1172c, 0x1182c, 0x1183b, 0x11930, 0x11936, 0x11937, 0x11939, 0x1193b,
  0x1193f, 0x11940, 0x11941, 0x11942, 0x11944, 0x119d1, 0x119d8, 0x119da, 0x119e1, 0x119e4, 0x119e5,
  0x11a01, 0x11a0b, 0x11a33, 0x11a3a, 0x11a3b, 0x11a3f, 0x11a47, 0x11a48, 0x11a51, 0x11a5c, 0x11a8a,
  0x11a9a, 0x11c2f, 0x11c37, 0x11c38, 0x11c40, 0x11c92, 0x11ca8, 0x11ca9, 0x11cb7, 0x11d31, 0x11d37,
  0x11d3a, 0x11d3b, 0x11d3c, 0x11d3e, 0x11d3f, 0x11d46, 0x11d47, 0x11d48, 0x11d8a, 0x11d8f, 0x11d90,
  0x11d92, 0x11d93, 0x11d98, 0x11ef3, 0x11ef7, 0x11f00, 0x11f02, 0x11f03, 0x11f04, 0x11f34, 0x11f3b,
  0x11f3e, 0x11f43, 0x13440, 0x13441, 0x13447, 0x13456, 0x16af0, 0x16af5, 0x16b30, 0x16b37, 0x16f4f,
  0x16f50, 0x16f51, 0x16f88, 0x16f8f, 0x16f93, 0x16fe4, 0x16fe5, 0x16ff0, 0x16ff2, 0x1bc9d, 0x1bc9f,
  0x1cf00, 0x1cf2e, 0x1cf30, 0x1cf47, 0x1d165, 0x1d16a, 0x1d16d, 0x1d173, 0x1d17b, 0x1d183, 0x1d185,
  0x1d18c, 0x1d1aa, 0x1d1ae, 0x1d242, 0x1d245, 0x1da00, 0x1da37, 0x1da3b, 0x1da6d, 0x1da75, 0x1da76,
  0x1da84, 0x1da85, 0x1da9b, 0x1daa0, 0x1daa1, 0x1dab0, 0x1e000, 0x1e007, 0x1e008, 0x1e019, 0x1e01b,
  0x1e022, 0x1e023, 0x1e025, 0x1e026, 0x1e02b, 0x1e08f, 0x1e090, 0x1e130, 0x1e137, 0x1e2ae, 0x1e2af,
  0x1e2ec, 0x1e2f0, 0x1e4ec, 0x1e4f0, 0x1e8d0, 0x1e8d7, 0x1e944, 0x1e94b, 0xe0100, 0xe01f0]

end MarketFeed.Url
