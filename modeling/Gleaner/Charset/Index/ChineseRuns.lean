import Gleaner.Text.Ranges

/-! The codes of four bytes in the Chinese encodings: they number, in order, the characters that have no
code of two bytes. -/
namespace Gleaner.Charset.Index

/-- The pointers at which a run of consecutive characters begins. -/
private def runPointers : Array Nat := #[
  0, 36, 38, 45, 50, 81, 89, 95, 96, 100, 103, 104, 105, 109, 126, 133, 148, 172, 175, 179, 208,
  306, 307, 308, 309, 310, 311, 312, 313, 341, 428, 443, 544, 545, 558, 741, 742, 749, 750, 805,
  819, 820, 7922, 7924, 7925, 7927, 7934, 7943, 7944, 7945, 7950, 8062, 8148, 8149, 8152, 8164,
  8174, 8236, 8240, 8262, 8264, 8374, 8380, 8381, 8384, 8388, 8390, 8392, 8393, 8394, 8396, 8401,
  8406, 8416, 8419, 8424, 8437, 8439, 8445, 8482, 8485, 8496, 8521, 8603, 8936, 8946, 9046, 9050,
  9063, 9066, 9076, 9092, 9100, 9108, 9111, 9113, 9131, 9162, 9164, 9218, 9219, 11329, 11331,
  11334, 11336, 11346, 11361, 11363, 11366, 11370, 11372, 11375, 11389, 11682, 11686, 11687,
  11692, 11694, 11714, 11716, 11723, 11725, 11730, 11736, 11982, 11989, 12102, 12336, 12348,
  12350, 12384, 12393, 12395, 12397, 12510, 12553, 12851, 12962, 12973, 13738, 13823, 13919,
  13933, 14080, 14298, 14585, 14698, 15583, 15847, 16318, 16434, 16438, 16481, 16729, 17102,
  17122, 17315, 17320, 17402, 17418, 17859, 17909, 17911, 17915, 17916, 17936, 17939, 17961,
  18664, 18703, 18814, 18962, 19043, 33469, 33470, 33471, 33484, 33485, 33490, 33497, 33501,
  33505, 33513, 33520, 33536, 33550, 37845, 37921, 37948, 38029, 38038, 38064, 38065, 38066,
  38069, 38075, 38076, 38078, 39108, 39109, 39113, 39114, 39115, 39116, 39265, 39394, 189000]

/-- The first character of each run. -/
private def runCharacters : Array Nat := #[
  0x0080, 0x00A5, 0x00A9, 0x00B2, 0x00B8, 0x00D8, 0x00E2, 0x00EB, 0x00EE, 0x00F4, 0x00F8, 0x00FB,
  0x00FD, 0x0102, 0x0114, 0x011C, 0x012C, 0x0145, 0x0149, 0x014E, 0x016C, 0x01CF, 0x01D1, 0x01D3,
  0x01D5, 0x01D7, 0x01D9, 0x01DB, 0x01DD, 0x01FA, 0x0252, 0x0262, 0x02C8, 0x02CC, 0x02DA, 0x03A2,
  0x03AA, 0x03C2, 0x03CA, 0x0402, 0x0450, 0x0452, 0x2011, 0x2017, 0x201A, 0x201E, 0x2027, 0x2031,
  0x2034, 0x2036, 0x203C, 0x20AD, 0x2104, 0x2106, 0x210A, 0x2117, 0x2122, 0x216C, 0x217A, 0x2194,
  0x219A, 0x2209, 0x2210, 0x2212, 0x2216, 0x221B, 0x2221, 0x2224, 0x2226, 0x222C, 0x222F, 0x2238,
  0x223E, 0x2249, 0x224D, 0x2253, 0x2262, 0x2268, 0x2270, 0x2296, 0x229A, 0x22A6, 0x22C0, 0x2313,
  0x246A, 0x249C, 0x254C, 0x2574, 0x2590, 0x2596, 0x25A2, 0x25B4, 0x25BE, 0x25C8, 0x25CC, 0x25D0,
  0x25E6, 0x2607, 0x260A, 0x2641, 0x2643, 0x2E82, 0x2E85, 0x2E89, 0x2E8D, 0x2E98, 0x2EA8, 0x2EAB,
  0x2EAF, 0x2EB4, 0x2EB8, 0x2EBC, 0x2ECB, 0x2FFC, 0x3004, 0x3018, 0x301F, 0x302A, 0x303F, 0x3094,
  0x309F, 0x30F7, 0x30FF, 0x312A, 0x322A, 0x3232, 0x32A4, 0x3390, 0x339F, 0x33A2, 0x33C5, 0x33CF,
  0x33D3, 0x33D6, 0x3448, 0x3474, 0x359F, 0x360F, 0x361B, 0x3919, 0x396F, 0x39D1, 0x39E0, 0x3A74,
  0x3B4F, 0x3C6F, 0x3CE1, 0x4057, 0x4160, 0x4338, 0x43AD, 0x43B2, 0x43DE, 0x44D7, 0x464D, 0x4662,
  0x4724, 0x472A, 0x477D, 0x478E, 0x4948, 0x497B, 0x497E, 0x4984, 0x4987, 0x499C, 0x49A0, 0x49B8,
  0x4C78, 0x4CA4, 0x4D1A, 0x4DAF, 0x9FA6, 0xE76C, 0xE7C8, 0xE7E7, 0xE815, 0xE819, 0xE81F, 0xE827,
  0xE82D, 0xE833, 0xE83C, 0xE844, 0xE856, 0xE865, 0xF92D, 0xF97A, 0xF996, 0xF9E8, 0xF9F2, 0xFA10,
  0xFA12, 0xFA15, 0xFA19, 0xFA22, 0xFA25, 0xFA2A, 0xFE32, 0xFE45, 0xFE53, 0xFE58, 0xFE67, 0xFE6C,
  0xFF5F, 0xFFE6, 0x10000]

/-- The character of a code of four bytes. The runs end at U+FFFF, and the last one holds all that lie above it;
one code has changed its character since. -/
def chineseRun (pointer : Nat) : Option Char :=
  if (39419 < pointer ∧ pointer < 189000) ∨ 1237575 < pointer then none
  else if pointer = 7457 then some '\ue7c7'
  else
    let i := Text.edgesUpTo runPointers pointer 0 runPointers.size - 1
    some (Char.ofNat (runCharacters.getD i 0 + (pointer - runPointers.getD i 0)))

end Gleaner.Charset.Index
