import Rulebook.Unicode.Script

/-!
# Scripts from O to S

The scripts whose short names begin with these letters, and their code points.
-/

namespace Rulebook

namespace Unicode

/-- The scripts from O to S. -/
def scriptsOToS : List Script :=
  [⟨["ogam", "ogham"], [(0x1680, 0x169C)], []⟩,
   ⟨["olck", "olchiki"], [(0x1C50, 0x1C7F)], []⟩,
   ⟨["onao", "olonal"], [(0x1E5D0, 0x1E5FA), (0x1E5FF, 0x1E5FF)], [(0x964, 0x965)]⟩,
   ⟨["orkh", "oldturkic"], [(0x10C00, 0x10C48)], [(0x205A, 0x205A), (0x2E30, 0x2E30)]⟩,
   ⟨["orya", "oriya"], [
     (0xB01, 0xB03), (0xB05, 0xB0C), (0xB0F, 0xB10), (0xB13, 0xB28), (0xB2A, 0xB30), (0xB32, 0xB33),
     (0xB35, 0xB39), (0xB3C, 0xB44), (0xB47, 0xB48), (0xB4B, 0xB4D), (0xB55, 0xB57), (0xB5C, 0xB5D),
     (0xB5F, 0xB63), (0xB66, 0xB77)],
     [(0x951, 0x952), (0x964, 0x965), (0x1CDA, 0x1CDA), (0x1CF2, 0x1CF2)]⟩,
   ⟨["osge", "osage"], [
     (0x104B0, 0x104D3), (0x104D8, 0x104FB)],
     [(0x301, 0x301), (0x304, 0x304), (0x30B, 0x30B), (0x358, 0x358)]⟩,
   ⟨["osma", "osmanya"], [(0x10480, 0x1049D), (0x104A0, 0x104A9)], []⟩,
   ⟨["ougr", "olduyghur"], [(0x10F70, 0x10F89)], [(0x640, 0x640), (0x10AF2, 0x10AF2)]⟩,
   ⟨["palm", "palmyrene"], [(0x10860, 0x1087F)], []⟩,
   ⟨["pauc", "paucinhau"], [(0x11AC0, 0x11AF8)], []⟩,
   ⟨["perm", "oldpermic"], [
     (0x10350, 0x1037A)],
     [(0xB7, 0xB7), (0x300, 0x300), (0x306, 0x308), (0x313, 0x313), (0x483, 0x483)]⟩,
   ⟨["phag", "phagspa"], [
     (0xA840, 0xA877)],
     [(0x1802, 0x1803), (0x1805, 0x1805), (0x202F, 0x202F), (0x3002, 0x3002)]⟩,
   ⟨["phli", "inscriptionalpahlavi"], [(0x10B60, 0x10B72), (0x10B78, 0x10B7F)], []⟩,
   ⟨["phlp", "psalterpahlavi"], [
     (0x10B80, 0x10B91), (0x10B99, 0x10B9C), (0x10BA9, 0x10BAF)],
     [(0x640, 0x640)]⟩,
   ⟨["phnx", "phoenician"], [(0x10900, 0x1091B), (0x1091F, 0x1091F)], []⟩,
   ⟨["plrd", "miao"], [(0x16F00, 0x16F4A), (0x16F4F, 0x16F87), (0x16F8F, 0x16F9F)], []⟩,
   ⟨["prti", "inscriptionalparthian"], [(0x10B40, 0x10B55), (0x10B58, 0x10B5F)], []⟩,
   ⟨["rjng", "rejang"], [(0xA930, 0xA953), (0xA95F, 0xA95F)], []⟩,
   ⟨["rohg", "hanifirohingya"], [
     (0x10D00, 0x10D27), (0x10D30, 0x10D39)],
     [(0x60C, 0x60C), (0x61B, 0x61B), (0x61F, 0x61F), (0x640, 0x640), (0x6D4, 0x6D4)]⟩,
   ⟨["runr", "runic"], [(0x16A0, 0x16EA), (0x16EE, 0x16F8)], [(0x16EB, 0x16ED)]⟩,
   ⟨["samr", "samaritan"], [(0x800, 0x82D), (0x830, 0x83E)], [(0x2E31, 0x2E31)]⟩,
   ⟨["sarb", "oldsoutharabian"], [(0x10A60, 0x10A7F)], []⟩,
   ⟨["saur", "saurashtra"], [(0xA880, 0xA8C5), (0xA8CE, 0xA8D9)], []⟩,
   ⟨["sgnw", "signwriting"], [(0x1D800, 0x1DA8B), (0x1DA9B, 0x1DA9F), (0x1DAA1, 0x1DAAF)], []⟩,
   ⟨["shaw", "shavian"], [(0x10450, 0x1047F)], [(0xB7, 0xB7)]⟩,
   ⟨["shrd", "sharada"], [
     (0x11180, 0x111DF)],
     [(0x951, 0x951), (0x1CD7, 0x1CD7), (0x1CD9, 0x1CD9), (0x1CDC, 0x1CDD), (0x1CE0, 0x1CE0),
      (0x1CEA, 0x1CEA), (0x1CED, 0x1CED), (0xA830, 0xA835), (0xA838, 0xA838)]⟩,
   ⟨["sidd", "siddham"], [(0x11580, 0x115B5), (0x115B8, 0x115DD)], []⟩,
   ⟨["sind", "khudawadi"], [
     (0x112B0, 0x112EA), (0x112F0, 0x112F9)],
     [(0x964, 0x965), (0xA830, 0xA839)]⟩,
   ⟨["sinh", "sinhala"], [
     (0xD81, 0xD83), (0xD85, 0xD96), (0xD9A, 0xDB1), (0xDB3, 0xDBB), (0xDBD, 0xDBD), (0xDC0, 0xDC6),
     (0xDCA, 0xDCA), (0xDCF, 0xDD4), (0xDD6, 0xDD6), (0xDD8, 0xDDF), (0xDE6, 0xDEF), (0xDF2, 0xDF4),
     (0x111E1, 0x111F4)],
     [(0x964, 0x965), (0x1CF2, 0x1CF2)]⟩,
   ⟨["sogd", "sogdian"], [(0x10F30, 0x10F59)], [(0x640, 0x640)]⟩,
   ⟨["sogo", "oldsogdian"], [(0x10F00, 0x10F27)], []⟩,
   ⟨["sora", "sorasompeng"], [(0x110D0, 0x110E8), (0x110F0, 0x110F9)], []⟩,
   ⟨["soyo", "soyombo"], [(0x11A50, 0x11AA2)], []⟩,
   ⟨["sund", "sundanese"], [(0x1B80, 0x1BBF), (0x1CC0, 0x1CC7)], []⟩,
   ⟨["sunu", "sunuwar"], [
     (0x11BC0, 0x11BE1), (0x11BF0, 0x11BF9)],
     [(0x300, 0x301), (0x303, 0x303), (0x30D, 0x30D), (0x310, 0x310), (0x32D, 0x32D),
      (0x331, 0x331)]⟩,
   ⟨["sylo", "sylotinagri"], [(0xA800, 0xA82C)], [(0x964, 0x965), (0x9E6, 0x9EF)]⟩,
   ⟨["syrc", "syriac"], [
     (0x700, 0x70D), (0x70F, 0x74A), (0x74D, 0x74F), (0x860, 0x86A)],
     [(0x303, 0x304), (0x307, 0x308), (0x30A, 0x30A), (0x323, 0x325), (0x32D, 0x32E),
      (0x330, 0x331), (0x60C, 0x60C), (0x61B, 0x61C), (0x61F, 0x61F), (0x640, 0x640),
      (0x64B, 0x655), (0x670, 0x670), (0x1DF8, 0x1DF8), (0x1DFA, 0x1DFA)]⟩]

end Unicode

end Rulebook
