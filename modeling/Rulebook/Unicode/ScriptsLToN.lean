import Rulebook.Unicode.Script

/-!
# Scripts from L to N

The scripts whose short names begin with these letters, and their code points.
-/

namespace Rulebook

namespace Unicode

/-- The scripts from L to N. -/
def scriptsLToN : List Script :=
  [⟨["lana", "taitham"], [
     (0x1A20, 0x1A5E), (0x1A60, 0x1A7C), (0x1A7F, 0x1A89), (0x1A90, 0x1A99), (0x1AA0, 0x1AAD)], []⟩,
   ⟨["laoo", "lao"], [
     (0xE81, 0xE82), (0xE84, 0xE84), (0xE86, 0xE8A), (0xE8C, 0xEA3), (0xEA5, 0xEA5), (0xEA7, 0xEBD),
     (0xEC0, 0xEC4), (0xEC6, 0xEC6), (0xEC8, 0xECE), (0xED0, 0xED9), (0xEDC, 0xEDF)], []⟩,
   ⟨["latn", "latin"], [
     (0x41, 0x5A), (0x61, 0x7A), (0xAA, 0xAA), (0xBA, 0xBA), (0xC0, 0xD6), (0xD8, 0xF6),
     (0xF8, 0x2B8), (0x2E0, 0x2E4), (0x1D00, 0x1D25), (0x1D2C, 0x1D5C), (0x1D62, 0x1D65),
     (0x1D6B, 0x1D77), (0x1D79, 0x1DBE), (0x1E00, 0x1EFF), (0x2071, 0x2071), (0x207F, 0x207F),
     (0x2090, 0x209C), (0x212A, 0x212B), (0x2132, 0x2132), (0x214E, 0x214E), (0x2160, 0x2188),
     (0x2C60, 0x2C7F), (0xA722, 0xA787), (0xA78B, 0xA7CD), (0xA7D0, 0xA7D1), (0xA7D3, 0xA7D3),
     (0xA7D5, 0xA7DC), (0xA7F2, 0xA7FF), (0xAB30, 0xAB5A), (0xAB5C, 0xAB64), (0xAB66, 0xAB69),
     (0xFB00, 0xFB06), (0xFF21, 0xFF3A), (0xFF41, 0xFF5A), (0x10780, 0x10785), (0x10787, 0x107B0),
     (0x107B2, 0x107BA), (0x1DF00, 0x1DF1E), (0x1DF25, 0x1DF2A)],
     [(0xB7, 0xB7), (0x2BC, 0x2BC), (0x2C7, 0x2C7), (0x2C9, 0x2CB), (0x2CD, 0x2CD), (0x2D7, 0x2D7),
      (0x2D9, 0x2D9), (0x300, 0x30E), (0x310, 0x311), (0x313, 0x313), (0x323, 0x325),
      (0x32D, 0x32E), (0x330, 0x331), (0x358, 0x358), (0x35E, 0x35E), (0x363, 0x36F),
      (0x485, 0x486), (0x951, 0x952), (0x10FB, 0x10FB), (0x1DF8, 0x1DF8), (0x202F, 0x202F),
      (0x20F0, 0x20F0), (0x2E17, 0x2E17), (0xA700, 0xA707), (0xA92E, 0xA92E)]⟩,
   ⟨["lepc", "lepcha"], [(0x1C00, 0x1C37), (0x1C3B, 0x1C49), (0x1C4D, 0x1C4F)], []⟩,
   ⟨["limb", "limbu"], [
     (0x1900, 0x191E), (0x1920, 0x192B), (0x1930, 0x193B), (0x1940, 0x1940), (0x1944, 0x194F)],
     [(0x965, 0x965)]⟩,
   ⟨["lina", "lineara"], [
     (0x10600, 0x10736), (0x10740, 0x10755), (0x10760, 0x10767)],
     [(0x10107, 0x10133)]⟩,
   ⟨["linb", "linearb"], [
     (0x10000, 0x1000B), (0x1000D, 0x10026), (0x10028, 0x1003A), (0x1003C, 0x1003D),
     (0x1003F, 0x1004D), (0x10050, 0x1005D), (0x10080, 0x100FA)],
     [(0x10100, 0x10102), (0x10107, 0x10133), (0x10137, 0x1013F)]⟩,
   ⟨["lisu"], [
     (0xA4D0, 0xA4FF), (0x11FB0, 0x11FB0)],
     [(0x2BC, 0x2BC), (0x2CD, 0x2CD), (0x300A, 0x300B)]⟩,
   ⟨["lyci", "lycian"], [(0x10280, 0x1029C)], [(0x205A, 0x205A)]⟩,
   ⟨["lydi", "lydian"], [
     (0x10920, 0x10939), (0x1093F, 0x1093F)],
     [(0xB7, 0xB7), (0x2E31, 0x2E31)]⟩,
   ⟨["mahj", "mahajani"], [(0x11150, 0x11176)], [(0xB7, 0xB7), (0x964, 0x96F), (0xA830, 0xA839)]⟩,
   ⟨["maka", "makasar"], [(0x11EE0, 0x11EF8)], []⟩,
   ⟨["mand", "mandaic"], [(0x840, 0x85B), (0x85E, 0x85E)], [(0x640, 0x640)]⟩,
   ⟨["mani", "manichaean"], [(0x10AC0, 0x10AE6), (0x10AEB, 0x10AF6)], [(0x640, 0x640)]⟩,
   ⟨["marc", "marchen"], [(0x11C70, 0x11C8F), (0x11C92, 0x11CA7), (0x11CA9, 0x11CB6)], []⟩,
   ⟨["medf", "medefaidrin"], [(0x16E40, 0x16E9A)], []⟩,
   ⟨["mend", "mendekikakui"], [(0x1E800, 0x1E8C4), (0x1E8C7, 0x1E8D6)], []⟩,
   ⟨["merc", "meroiticcursive"], [
     (0x109A0, 0x109B7), (0x109BC, 0x109CF), (0x109D2, 0x109FF)], []⟩,
   ⟨["mero", "meroitichieroglyphs"], [(0x10980, 0x1099F)], [(0x205D, 0x205D)]⟩,
   ⟨["mlym", "malayalam"], [
     (0xD00, 0xD0C), (0xD0E, 0xD10), (0xD12, 0xD44), (0xD46, 0xD48), (0xD4A, 0xD4F), (0xD54, 0xD63),
     (0xD66, 0xD7F)],
     [(0x951, 0x952), (0x964, 0x965), (0x1CDA, 0x1CDA), (0x1CF2, 0x1CF2), (0xA830, 0xA832)]⟩,
   ⟨["modi"], [(0x11600, 0x11644), (0x11650, 0x11659)], [(0xA830, 0xA839)]⟩,
   ⟨["mong", "mongolian"], [
     (0x1800, 0x1801), (0x1804, 0x1804), (0x1806, 0x1819), (0x1820, 0x1878), (0x1880, 0x18AA),
     (0x11660, 0x1166C)],
     [(0x1802, 0x1803), (0x1805, 0x1805), (0x202F, 0x202F), (0x3001, 0x3002), (0x3008, 0x300B)]⟩,
   ⟨["mroo", "mro"], [(0x16A40, 0x16A5E), (0x16A60, 0x16A69), (0x16A6E, 0x16A6F)], []⟩,
   ⟨["mtei", "meeteimayek"], [(0xAAE0, 0xAAF6), (0xABC0, 0xABED), (0xABF0, 0xABF9)], []⟩,
   ⟨["mult", "multani"], [
     (0x11280, 0x11286), (0x11288, 0x11288), (0x1128A, 0x1128D), (0x1128F, 0x1129D),
     (0x1129F, 0x112A9)],
     [(0xA66, 0xA6F)]⟩,
   ⟨["mymr", "myanmar"], [
     (0x1000, 0x109F), (0xA9E0, 0xA9FE), (0xAA60, 0xAA7F), (0x116D0, 0x116E3)],
     [(0xA92E, 0xA92E)]⟩,
   ⟨["nagm", "nagmundari"], [(0x1E4D0, 0x1E4F9)], []⟩,
   ⟨["nand", "nandinagari"], [
     (0x119A0, 0x119A7), (0x119AA, 0x119D7), (0x119DA, 0x119E4)],
     [(0x951, 0x951), (0x964, 0x965), (0xCE6, 0xCEF), (0x1CE9, 0x1CE9), (0x1CF2, 0x1CF2),
      (0x1CFA, 0x1CFA), (0xA830, 0xA835)]⟩,
   ⟨["narb", "oldnortharabian"], [(0x10A80, 0x10A9F)], []⟩,
   ⟨["nbat", "nabataean"], [(0x10880, 0x1089E), (0x108A7, 0x108AF)], []⟩,
   ⟨["newa"], [
     (0x11400, 0x1145B), (0x1145D, 0x11461)],
     [(0x951, 0x952), (0x1CD5, 0x1CD5), (0x1CD7, 0x1CD8), (0x1CE2, 0x1CE2), (0x1CE9, 0x1CE9),
      (0x1CEB, 0x1CEB), (0x1CED, 0x1CED)]⟩,
   ⟨["nkoo", "nko"], [
     (0x7C0, 0x7FA), (0x7FD, 0x7FF)],
     [(0x60C, 0x60C), (0x61B, 0x61B), (0x61F, 0x61F), (0xFD3E, 0xFD3F)]⟩,
   ⟨["nshu", "nushu"], [(0x16FE1, 0x16FE1), (0x1B170, 0x1B2FB)], []⟩]

end Unicode

end Rulebook
