import MlogHighlight.Unicode.Ranges

/-!
# Letters and numbers

The characters words are made of: the letters (general categories Lu, Ll, Lt, Lm, Lo) and the
numbers (Nd, Nl, No) of Unicode 18. One table holds them all, so a character has at most one
class: a capital or small letter is a letter by definition, and no letter is a number.
-/

namespace MlogHighlight.Unicode

/-- What a character counts as inside a word. -/
inductive WordClass where
  | upper
  | lower
  | other
  | number
deriving DecidableEq, Repr

/-- What a range of the table holds; a `paired` range alternates capital and small letters, a
capital first. -/
inductive WordBlock where
  | upper
  | lower
  | other
  | number
  | paired
deriving DecidableEq, Repr

/-- The class of the character `offset` places into a block. -/
def WordBlock.classAt : WordBlock → Nat → WordClass
  | .upper, _ => .upper
  | .lower, _ => .lower
  | .other, _ => .other
  | .number, _ => .number
  | .paired, offset => if offset % 2 = 0 then .upper else .lower

/-- The letters and numbers below `U+1000`. -/
def lowBlocks : RangeMap WordBlock := [
  (0x30, 0x39, .number), (0x41, 0x5A, .upper), (0x61, 0x7A, .lower), (0xAA, 0xAA, .other),
  (0xB2, 0xB3, .number), (0xB5, 0xB5, .lower), (0xB9, 0xB9, .number), (0xBA, 0xBA, .other),
  (0xBC, 0xBE, .number), (0xC0, 0xD6, .upper), (0xD8, 0xDE, .upper), (0xDF, 0xF6, .lower),
  (0xF8, 0xFF, .lower), (0x100, 0x136, .paired), (0x137, 0x138, .lower), (0x139, 0x147, .paired),
  (0x148, 0x149, .lower), (0x14A, 0x177, .paired), (0x178, 0x179, .upper),
  (0x17A, 0x17A, .lower), (0x17B, 0x17D, .paired), (0x17E, 0x180, .lower),
  (0x181, 0x182, .upper), (0x183, 0x183, .lower), (0x184, 0x184, .upper), (0x185, 0x185, .lower),
  (0x186, 0x187, .upper), (0x188, 0x188, .lower), (0x189, 0x18B, .upper), (0x18C, 0x18D, .lower),
  (0x18E, 0x191, .upper), (0x192, 0x192, .lower), (0x193, 0x194, .upper), (0x195, 0x195, .lower),
  (0x196, 0x198, .upper), (0x199, 0x19B, .lower), (0x19C, 0x19D, .upper), (0x19E, 0x19E, .lower),
  (0x19F, 0x1A0, .upper), (0x1A1, 0x1A1, .lower), (0x1A2, 0x1A5, .paired),
  (0x1A6, 0x1A7, .upper), (0x1A8, 0x1A8, .lower), (0x1A9, 0x1A9, .upper), (0x1AA, 0x1AB, .lower),
  (0x1AC, 0x1AC, .upper), (0x1AD, 0x1AD, .lower), (0x1AE, 0x1AF, .upper), (0x1B0, 0x1B0, .lower),
  (0x1B1, 0x1B3, .upper), (0x1B4, 0x1B4, .lower), (0x1B5, 0x1B5, .upper), (0x1B6, 0x1B6, .lower),
  (0x1B7, 0x1B8, .upper), (0x1B9, 0x1BA, .lower), (0x1BB, 0x1BB, .other), (0x1BC, 0x1BC, .upper),
  (0x1BD, 0x1BF, .lower), (0x1C0, 0x1C3, .other), (0x1C4, 0x1C4, .upper), (0x1C5, 0x1C5, .other),
  (0x1C6, 0x1C6, .lower), (0x1C7, 0x1C7, .upper), (0x1C8, 0x1C8, .other), (0x1C9, 0x1C9, .lower),
  (0x1CA, 0x1CA, .upper), (0x1CB, 0x1CB, .other), (0x1CC, 0x1CC, .lower),
  (0x1CD, 0x1DB, .paired), (0x1DC, 0x1DD, .lower), (0x1DE, 0x1EE, .paired),
  (0x1EF, 0x1F0, .lower), (0x1F1, 0x1F1, .upper), (0x1F2, 0x1F2, .other), (0x1F3, 0x1F3, .lower),
  (0x1F4, 0x1F4, .upper), (0x1F5, 0x1F5, .lower), (0x1F6, 0x1F8, .upper), (0x1F9, 0x1F9, .lower),
  (0x1FA, 0x232, .paired), (0x233, 0x239, .lower), (0x23A, 0x23B, .upper),
  (0x23C, 0x23C, .lower), (0x23D, 0x23E, .upper), (0x23F, 0x240, .lower), (0x241, 0x241, .upper),
  (0x242, 0x242, .lower), (0x243, 0x246, .upper), (0x247, 0x247, .lower),
  (0x248, 0x24E, .paired), (0x24F, 0x293, .lower), (0x294, 0x295, .other),
  (0x296, 0x2AF, .lower), (0x2B0, 0x2C1, .other), (0x2C6, 0x2D1, .other), (0x2E0, 0x2E4, .other),
  (0x2EC, 0x2EC, .other), (0x2EE, 0x2EE, .other), (0x370, 0x373, .paired),
  (0x374, 0x374, .other), (0x376, 0x376, .upper), (0x377, 0x377, .lower), (0x37A, 0x37A, .other),
  (0x37B, 0x37D, .lower), (0x37F, 0x37F, .upper), (0x386, 0x386, .upper), (0x388, 0x38A, .upper),
  (0x38C, 0x38C, .upper), (0x38E, 0x38F, .upper), (0x390, 0x390, .lower), (0x391, 0x3A1, .upper),
  (0x3A3, 0x3AB, .upper), (0x3AC, 0x3CE, .lower), (0x3CF, 0x3CF, .upper), (0x3D0, 0x3D1, .lower),
  (0x3D2, 0x3D4, .upper), (0x3D5, 0x3D7, .lower), (0x3D8, 0x3EE, .paired),
  (0x3EF, 0x3F3, .lower), (0x3F4, 0x3F4, .upper), (0x3F5, 0x3F5, .lower), (0x3F7, 0x3F7, .upper),
  (0x3F8, 0x3F8, .lower), (0x3F9, 0x3FA, .upper), (0x3FB, 0x3FC, .lower), (0x3FD, 0x42F, .upper),
  (0x430, 0x45F, .lower), (0x460, 0x481, .paired), (0x48A, 0x4BF, .paired),
  (0x4C0, 0x4C1, .upper), (0x4C2, 0x4C2, .lower), (0x4C3, 0x4CD, .paired),
  (0x4CE, 0x4CF, .lower), (0x4D0, 0x52F, .paired), (0x531, 0x556, .upper),
  (0x558, 0x559, .other), (0x560, 0x588, .lower), (0x58B, 0x58C, .other), (0x5D0, 0x5EA, .other),
  (0x5EF, 0x5F2, .other), (0x620, 0x64A, .other), (0x660, 0x669, .number),
  (0x66E, 0x66F, .other), (0x671, 0x6D3, .other), (0x6D5, 0x6D5, .other), (0x6E5, 0x6E6, .other),
  (0x6EE, 0x6EF, .other), (0x6F0, 0x6F9, .number), (0x6FA, 0x6FC, .other),
  (0x6FF, 0x6FF, .other), (0x710, 0x710, .other), (0x712, 0x72F, .other), (0x74D, 0x7A5, .other),
  (0x7B1, 0x7B1, .other), (0x7C0, 0x7C9, .number), (0x7CA, 0x7EA, .other),
  (0x7F4, 0x7F5, .other), (0x7FA, 0x7FA, .other), (0x800, 0x815, .other), (0x81A, 0x81A, .other),
  (0x824, 0x824, .other), (0x828, 0x828, .other), (0x840, 0x858, .other), (0x860, 0x86A, .other),
  (0x870, 0x887, .other), (0x889, 0x88F, .other), (0x8A0, 0x8C9, .other), (0x904, 0x939, .other),
  (0x93D, 0x93D, .other), (0x950, 0x950, .other), (0x958, 0x961, .other),
  (0x966, 0x96F, .number), (0x971, 0x980, .other), (0x985, 0x98C, .other),
  (0x98F, 0x990, .other), (0x993, 0x9A8, .other), (0x9AA, 0x9B0, .other), (0x9B2, 0x9B2, .other),
  (0x9B6, 0x9B9, .other), (0x9BD, 0x9BD, .other), (0x9CE, 0x9CE, .other), (0x9DC, 0x9DD, .other),
  (0x9DF, 0x9E1, .other), (0x9E6, 0x9EF, .number), (0x9F0, 0x9F1, .other),
  (0x9F4, 0x9F9, .number), (0x9FC, 0x9FC, .other), (0xA05, 0xA0A, .other),
  (0xA0F, 0xA10, .other), (0xA13, 0xA28, .other), (0xA2A, 0xA30, .other), (0xA32, 0xA33, .other),
  (0xA35, 0xA36, .other), (0xA38, 0xA39, .other), (0xA59, 0xA5C, .other), (0xA5E, 0xA5E, .other),
  (0xA66, 0xA6F, .number), (0xA72, 0xA74, .other), (0xA85, 0xA8D, .other),
  (0xA8F, 0xA91, .other), (0xA93, 0xAA8, .other), (0xAAA, 0xAB0, .other), (0xAB2, 0xAB3, .other),
  (0xAB5, 0xAB9, .other), (0xABD, 0xABD, .other), (0xAD0, 0xAD0, .other), (0xAE0, 0xAE1, .other),
  (0xAE6, 0xAEF, .number), (0xAF9, 0xAF9, .other), (0xB05, 0xB0C, .other),
  (0xB0F, 0xB10, .other), (0xB13, 0xB28, .other), (0xB2A, 0xB30, .other), (0xB32, 0xB33, .other),
  (0xB35, 0xB39, .other), (0xB3D, 0xB3D, .other), (0xB5C, 0xB5D, .other), (0xB5F, 0xB61, .other),
  (0xB66, 0xB6F, .number), (0xB71, 0xB71, .other), (0xB72, 0xB77, .number),
  (0xB83, 0xB83, .other), (0xB85, 0xB8A, .other), (0xB8E, 0xB90, .other), (0xB92, 0xB95, .other),
  (0xB99, 0xB9A, .other), (0xB9C, 0xB9C, .other), (0xB9E, 0xB9F, .other), (0xBA3, 0xBA4, .other),
  (0xBA8, 0xBAA, .other), (0xBAE, 0xBB9, .other), (0xBD0, 0xBD0, .other),
  (0xBE6, 0xBF2, .number), (0xC05, 0xC0C, .other), (0xC0E, 0xC10, .other),
  (0xC12, 0xC28, .other), (0xC2A, 0xC39, .other), (0xC3D, 0xC3D, .other), (0xC58, 0xC5A, .other),
  (0xC5C, 0xC5D, .other), (0xC60, 0xC61, .other), (0xC66, 0xC6F, .number),
  (0xC78, 0xC7E, .number), (0xC80, 0xC80, .other), (0xC85, 0xC8C, .other),
  (0xC8E, 0xC90, .other), (0xC92, 0xCA8, .other), (0xCAA, 0xCB3, .other), (0xCB5, 0xCB9, .other),
  (0xCBD, 0xCBD, .other), (0xCDC, 0xCDE, .other), (0xCE0, 0xCE1, .other),
  (0xCE6, 0xCEF, .number), (0xCF1, 0xCF2, .other), (0xD04, 0xD0C, .other),
  (0xD0E, 0xD10, .other), (0xD12, 0xD3A, .other), (0xD3D, 0xD3D, .other), (0xD4E, 0xD4E, .other),
  (0xD54, 0xD56, .other), (0xD58, 0xD5E, .number), (0xD5F, 0xD61, .other),
  (0xD66, 0xD78, .number), (0xD7A, 0xD7F, .other), (0xD85, 0xD96, .other),
  (0xD9A, 0xDB1, .other), (0xDB3, 0xDBB, .other), (0xDBD, 0xDBD, .other), (0xDC0, 0xDC6, .other),
  (0xDE6, 0xDEF, .number), (0xE01, 0xE30, .other), (0xE32, 0xE33, .other),
  (0xE40, 0xE46, .other), (0xE50, 0xE59, .number), (0xE81, 0xE82, .other),
  (0xE84, 0xE84, .other), (0xE86, 0xE8A, .other), (0xE8C, 0xEA3, .other), (0xEA5, 0xEA5, .other),
  (0xEA7, 0xEB0, .other), (0xEB2, 0xEB3, .other), (0xEBD, 0xEBD, .other), (0xEC0, 0xEC4, .other),
  (0xEC6, 0xEC6, .other), (0xED0, 0xED9, .number), (0xEDC, 0xEDF, .other),
  (0xF00, 0xF00, .other), (0xF20, 0xF33, .number), (0xF40, 0xF47, .other),
  (0xF49, 0xF6C, .other), (0xF88, 0xF8C, .other)]

/-- The letters and numbers from `U+1000` on in the basic plane. -/
def highBlocks : RangeMap WordBlock := [
  (0x1000, 0x102A, .other), (0x103F, 0x103F, .other), (0x1040, 0x1049, .number),
  (0x1050, 0x1055, .other), (0x105A, 0x105D, .other), (0x1061, 0x1061, .other),
  (0x1065, 0x1066, .other), (0x106E, 0x1070, .other), (0x1075, 0x1081, .other),
  (0x108E, 0x108E, .other), (0x1090, 0x1099, .number), (0x10A0, 0x10C5, .upper),
  (0x10C7, 0x10C7, .upper), (0x10CD, 0x10CD, .upper), (0x10D0, 0x10FA, .lower),
  (0x10FC, 0x10FC, .other), (0x10FD, 0x10FF, .lower), (0x1100, 0x1248, .other),
  (0x124A, 0x124D, .other), (0x1250, 0x1256, .other), (0x1258, 0x1258, .other),
  (0x125A, 0x125D, .other), (0x1260, 0x1288, .other), (0x128A, 0x128D, .other),
  (0x1290, 0x12B0, .other), (0x12B2, 0x12B5, .other), (0x12B8, 0x12BE, .other),
  (0x12C0, 0x12C0, .other), (0x12C2, 0x12C5, .other), (0x12C8, 0x12D6, .other),
  (0x12D8, 0x1310, .other), (0x1312, 0x1315, .other), (0x1318, 0x135A, .other),
  (0x1369, 0x137C, .number), (0x1380, 0x138F, .other), (0x13A0, 0x13F5, .upper),
  (0x13F8, 0x13FD, .lower), (0x1401, 0x166C, .other), (0x166F, 0x167F, .other),
  (0x1681, 0x169A, .other), (0x16A0, 0x16EA, .other), (0x16EE, 0x16F0, .number),
  (0x16F1, 0x16F8, .other), (0x1700, 0x1711, .other), (0x171F, 0x1731, .other),
  (0x1740, 0x1751, .other), (0x1760, 0x176C, .other), (0x176E, 0x1770, .other),
  (0x1780, 0x17B3, .other), (0x17D7, 0x17D7, .other), (0x17DC, 0x17DC, .other),
  (0x17E0, 0x17E9, .number), (0x17F0, 0x17F9, .number), (0x1810, 0x1819, .number),
  (0x1820, 0x1878, .other), (0x1880, 0x1884, .other), (0x1887, 0x18A8, .other),
  (0x18AA, 0x18AA, .other), (0x18B0, 0x18F5, .other), (0x1900, 0x191E, .other),
  (0x1946, 0x194F, .number), (0x1950, 0x196D, .other), (0x1970, 0x1974, .other),
  (0x1980, 0x19AB, .other), (0x19B0, 0x19C9, .other), (0x19D0, 0x19DA, .number),
  (0x1A00, 0x1A16, .other), (0x1A20, 0x1A54, .other), (0x1A80, 0x1A89, .number),
  (0x1A90, 0x1A99, .number), (0x1AA7, 0x1AA7, .other), (0x1B05, 0x1B33, .other),
  (0x1B45, 0x1B4C, .other), (0x1B50, 0x1B59, .number), (0x1B83, 0x1BA0, .other),
  (0x1BAE, 0x1BAF, .other), (0x1BB0, 0x1BB9, .number), (0x1BBA, 0x1BE5, .other),
  (0x1C00, 0x1C23, .other), (0x1C40, 0x1C49, .number), (0x1C4D, 0x1C4F, .other),
  (0x1C50, 0x1C59, .number), (0x1C5A, 0x1C7D, .other), (0x1C80, 0x1C88, .lower),
  (0x1C89, 0x1C89, .upper), (0x1C8A, 0x1C8A, .lower), (0x1C90, 0x1CBA, .upper),
  (0x1CBD, 0x1CBF, .upper), (0x1CE9, 0x1CEC, .other), (0x1CEE, 0x1CF3, .other),
  (0x1CF5, 0x1CF6, .other), (0x1CFA, 0x1CFA, .other), (0x1D00, 0x1D2B, .lower),
  (0x1D2C, 0x1D6A, .other), (0x1D6B, 0x1D77, .lower), (0x1D78, 0x1D78, .other),
  (0x1D79, 0x1D9A, .lower), (0x1D9B, 0x1DBF, .other), (0x1E00, 0x1E94, .paired),
  (0x1E95, 0x1E9D, .lower), (0x1E9E, 0x1EFE, .paired), (0x1EFF, 0x1F07, .lower),
  (0x1F08, 0x1F0F, .upper), (0x1F10, 0x1F15, .lower), (0x1F18, 0x1F1D, .upper),
  (0x1F20, 0x1F27, .lower), (0x1F28, 0x1F2F, .upper), (0x1F30, 0x1F37, .lower),
  (0x1F38, 0x1F3F, .upper), (0x1F40, 0x1F45, .lower), (0x1F48, 0x1F4D, .upper),
  (0x1F50, 0x1F57, .lower), (0x1F59, 0x1F59, .upper), (0x1F5B, 0x1F5B, .upper),
  (0x1F5D, 0x1F5D, .upper), (0x1F5F, 0x1F5F, .upper), (0x1F60, 0x1F67, .lower),
  (0x1F68, 0x1F6F, .upper), (0x1F70, 0x1F7D, .lower), (0x1F80, 0x1F87, .lower),
  (0x1F88, 0x1F8F, .other), (0x1F90, 0x1F97, .lower), (0x1F98, 0x1F9F, .other),
  (0x1FA0, 0x1FA7, .lower), (0x1FA8, 0x1FAF, .other), (0x1FB0, 0x1FB4, .lower),
  (0x1FB6, 0x1FB7, .lower), (0x1FB8, 0x1FBB, .upper), (0x1FBC, 0x1FBC, .other),
  (0x1FBE, 0x1FBE, .lower), (0x1FC2, 0x1FC4, .lower), (0x1FC6, 0x1FC7, .lower),
  (0x1FC8, 0x1FCB, .upper), (0x1FCC, 0x1FCC, .other), (0x1FD0, 0x1FD3, .lower),
  (0x1FD6, 0x1FD7, .lower), (0x1FD8, 0x1FDB, .upper), (0x1FE0, 0x1FE7, .lower),
  (0x1FE8, 0x1FEC, .upper), (0x1FF2, 0x1FF4, .lower), (0x1FF6, 0x1FF7, .lower),
  (0x1FF8, 0x1FFB, .upper), (0x1FFC, 0x1FFC, .other), (0x2070, 0x2070, .number),
  (0x2071, 0x2071, .other), (0x2074, 0x2079, .number), (0x207F, 0x207F, .other),
  (0x2080, 0x2089, .number), (0x208F, 0x209F, .other), (0x2102, 0x2102, .upper),
  (0x2107, 0x2107, .upper), (0x210A, 0x210A, .lower), (0x210B, 0x210D, .upper),
  (0x210E, 0x210F, .lower), (0x2110, 0x2112, .upper), (0x2113, 0x2113, .lower),
  (0x2115, 0x2115, .upper), (0x2119, 0x211D, .upper), (0x2124, 0x2124, .upper),
  (0x2126, 0x2126, .upper), (0x2128, 0x2128, .upper), (0x212A, 0x212D, .upper),
  (0x212F, 0x212F, .lower), (0x2130, 0x2133, .upper), (0x2134, 0x2134, .lower),
  (0x2135, 0x2138, .other), (0x2139, 0x2139, .lower), (0x213C, 0x213D, .lower),
  (0x213E, 0x213F, .upper), (0x2145, 0x2145, .upper), (0x2146, 0x2149, .lower),
  (0x214E, 0x214E, .lower), (0x2150, 0x2182, .number), (0x2183, 0x2183, .upper),
  (0x2184, 0x2184, .lower), (0x2185, 0x2189, .number), (0x2460, 0x249B, .number),
  (0x24EA, 0x24FF, .number), (0x2776, 0x2793, .number), (0x2C00, 0x2C2F, .upper),
  (0x2C30, 0x2C5F, .lower), (0x2C60, 0x2C60, .upper), (0x2C61, 0x2C61, .lower),
  (0x2C62, 0x2C64, .upper), (0x2C65, 0x2C66, .lower), (0x2C67, 0x2C6C, .paired),
  (0x2C6D, 0x2C70, .upper), (0x2C71, 0x2C71, .lower), (0x2C72, 0x2C72, .upper),
  (0x2C73, 0x2C74, .lower), (0x2C75, 0x2C75, .upper), (0x2C76, 0x2C7B, .lower),
  (0x2C7C, 0x2C7D, .other), (0x2C7E, 0x2C80, .upper), (0x2C81, 0x2C81, .lower),
  (0x2C82, 0x2CE2, .paired), (0x2CE3, 0x2CE4, .lower), (0x2CEB, 0x2CEE, .paired),
  (0x2CF2, 0x2CF2, .upper), (0x2CF3, 0x2CF3, .lower), (0x2CFD, 0x2CFD, .number),
  (0x2D00, 0x2D25, .lower), (0x2D27, 0x2D27, .lower), (0x2D2D, 0x2D2D, .lower),
  (0x2D30, 0x2D67, .other), (0x2D6F, 0x2D6F, .other), (0x2D80, 0x2D96, .other),
  (0x2DA0, 0x2DA6, .other), (0x2DA8, 0x2DAE, .other), (0x2DB0, 0x2DB6, .other),
  (0x2DB8, 0x2DBE, .other), (0x2DC0, 0x2DC6, .other), (0x2DC8, 0x2DCE, .other),
  (0x2DD0, 0x2DD6, .other), (0x2DD8, 0x2DDE, .other), (0x2E2F, 0x2E2F, .other),
  (0x3005, 0x3006, .other), (0x3007, 0x3007, .number), (0x3021, 0x3029, .number),
  (0x3031, 0x3035, .other), (0x3038, 0x303A, .number), (0x303B, 0x303C, .other),
  (0x3041, 0x3096, .other), (0x309D, 0x309F, .other), (0x30A1, 0x30FA, .other),
  (0x30FC, 0x30FF, .other), (0x3105, 0x312F, .other), (0x3131, 0x318E, .other),
  (0x3192, 0x3195, .number), (0x31A0, 0x31BF, .other), (0x31F0, 0x31FF, .other),
  (0x3220, 0x3229, .number), (0x3248, 0x324F, .number), (0x3251, 0x325F, .number),
  (0x3280, 0x3289, .number), (0x32B1, 0x32BF, .number), (0x3400, 0x4DBF, .other),
  (0x4E00, 0xA48C, .other), (0xA4D0, 0xA4FD, .other), (0xA500, 0xA60C, .other),
  (0xA610, 0xA61F, .other), (0xA620, 0xA629, .number), (0xA62A, 0xA62B, .other),
  (0xA640, 0xA66D, .paired), (0xA66E, 0xA66E, .other), (0xA67F, 0xA67F, .other),
  (0xA680, 0xA69B, .paired), (0xA69C, 0xA69D, .other), (0xA6A0, 0xA6E5, .other),
  (0xA6E6, 0xA6EF, .number), (0xA717, 0xA71F, .other), (0xA722, 0xA72E, .paired),
  (0xA72F, 0xA731, .lower), (0xA732, 0xA76F, .paired), (0xA770, 0xA770, .other),
  (0xA771, 0xA778, .lower), (0xA779, 0xA77C, .paired), (0xA77D, 0xA77E, .upper),
  (0xA77F, 0xA77F, .lower), (0xA780, 0xA787, .paired), (0xA788, 0xA788, .other),
  (0xA78B, 0xA78E, .paired), (0xA78F, 0xA78F, .other), (0xA790, 0xA792, .paired),
  (0xA793, 0xA795, .lower), (0xA796, 0xA7A9, .paired), (0xA7AA, 0xA7AE, .upper),
  (0xA7AF, 0xA7AF, .lower), (0xA7B0, 0xA7B4, .upper), (0xA7B5, 0xA7B5, .lower),
  (0xA7B6, 0xA7C3, .paired), (0xA7C4, 0xA7C7, .upper), (0xA7C8, 0xA7C8, .lower),
  (0xA7C9, 0xA7C9, .upper), (0xA7CA, 0xA7CA, .lower), (0xA7CB, 0xA7CC, .upper),
  (0xA7CD, 0xA7CD, .lower), (0xA7CE, 0xA7DB, .paired), (0xA7DC, 0xA7DD, .upper),
  (0xA7E2, 0xA7E2, .upper), (0xA7F1, 0xA7F4, .other), (0xA7F5, 0xA7F5, .upper),
  (0xA7F6, 0xA7F6, .lower), (0xA7F7, 0xA7F9, .other), (0xA7FA, 0xA7FA, .lower),
  (0xA7FB, 0xA801, .other), (0xA803, 0xA805, .other), (0xA807, 0xA80A, .other),
  (0xA80C, 0xA822, .other), (0xA830, 0xA835, .number), (0xA840, 0xA873, .other),
  (0xA882, 0xA8B3, .other), (0xA8D0, 0xA8D9, .number), (0xA8F2, 0xA8F7, .other),
  (0xA8FB, 0xA8FB, .other), (0xA8FD, 0xA8FE, .other), (0xA900, 0xA909, .number),
  (0xA90A, 0xA925, .other), (0xA930, 0xA946, .other), (0xA960, 0xA97C, .other),
  (0xA984, 0xA9B2, .other), (0xA9CF, 0xA9CF, .other), (0xA9D0, 0xA9D9, .number),
  (0xA9E0, 0xA9E4, .other), (0xA9E6, 0xA9EF, .other), (0xA9F0, 0xA9F9, .number),
  (0xA9FA, 0xA9FE, .other), (0xAA00, 0xAA28, .other), (0xAA40, 0xAA42, .other),
  (0xAA44, 0xAA4B, .other), (0xAA50, 0xAA59, .number), (0xAA60, 0xAA76, .other),
  (0xAA7A, 0xAA7A, .other), (0xAA7E, 0xAAAF, .other), (0xAAB1, 0xAAB1, .other),
  (0xAAB5, 0xAAB6, .other), (0xAAB9, 0xAABD, .other), (0xAAC0, 0xAAC0, .other),
  (0xAAC2, 0xAAC2, .other), (0xAADB, 0xAADD, .other), (0xAAE0, 0xAAEA, .other),
  (0xAAF2, 0xAAF4, .other), (0xAB01, 0xAB06, .other), (0xAB09, 0xAB0E, .other),
  (0xAB11, 0xAB16, .other), (0xAB20, 0xAB26, .other), (0xAB28, 0xAB2E, .other),
  (0xAB30, 0xAB5A, .lower), (0xAB5C, 0xAB5F, .other), (0xAB60, 0xAB68, .lower),
  (0xAB69, 0xAB69, .other), (0xAB6C, 0xAB6D, .upper), (0xAB70, 0xABBF, .lower),
  (0xABC0, 0xABE2, .other), (0xABF0, 0xABF9, .number), (0xAC00, 0xD7A3, .other),
  (0xD7B0, 0xD7C6, .other), (0xD7CB, 0xD7FB, .other), (0xF900, 0xFA6D, .other),
  (0xFA70, 0xFAD9, .other), (0xFB00, 0xFB06, .lower), (0xFB13, 0xFB17, .lower),
  (0xFB1D, 0xFB1D, .other), (0xFB1F, 0xFB28, .other), (0xFB2A, 0xFB36, .other),
  (0xFB38, 0xFB3C, .other), (0xFB3E, 0xFB3E, .other), (0xFB40, 0xFB41, .other),
  (0xFB43, 0xFB44, .other), (0xFB46, 0xFBB1, .other), (0xFBD3, 0xFD3D, .other),
  (0xFD50, 0xFD8F, .other), (0xFD92, 0xFDC7, .other), (0xFDF0, 0xFDFB, .other),
  (0xFE70, 0xFE74, .other), (0xFE76, 0xFEFC, .other), (0xFF10, 0xFF19, .number),
  (0xFF21, 0xFF3A, .upper), (0xFF41, 0xFF5A, .lower), (0xFF66, 0xFFBE, .other),
  (0xFFC2, 0xFFC7, .other), (0xFFCA, 0xFFCF, .other), (0xFFD2, 0xFFD7, .other),
  (0xFFDA, 0xFFDC, .other)]

/-- The letters and numbers of the supplementary planes. -/
def supplementaryBlocks : RangeMap WordBlock := [
  (0x10000, 0x1000B, .other), (0x1000D, 0x10026, .other), (0x10028, 0x1003A, .other),
  (0x1003C, 0x1003D, .other), (0x1003F, 0x1004D, .other), (0x10050, 0x1005D, .other),
  (0x10080, 0x100FA, .other), (0x10107, 0x10133, .number), (0x10140, 0x10178, .number),
  (0x1018A, 0x1018B, .number), (0x10280, 0x1029C, .other), (0x102A0, 0x102D0, .other),
  (0x102E1, 0x102FB, .number), (0x10300, 0x1031F, .other), (0x10320, 0x10323, .number),
  (0x1032D, 0x10340, .other), (0x10341, 0x10341, .number), (0x10342, 0x10349, .other),
  (0x1034A, 0x1034A, .number), (0x10350, 0x10375, .other), (0x10380, 0x1039D, .other),
  (0x103A0, 0x103C3, .other), (0x103C8, 0x103CF, .other), (0x103D1, 0x103D5, .number),
  (0x10400, 0x10427, .upper), (0x10428, 0x1044F, .lower), (0x10450, 0x1049D, .other),
  (0x104A0, 0x104A9, .number), (0x104B0, 0x104D3, .upper), (0x104D8, 0x104FB, .lower),
  (0x10500, 0x10527, .other), (0x10530, 0x10563, .other), (0x10570, 0x1057A, .upper),
  (0x1057C, 0x1058A, .upper), (0x1058C, 0x10592, .upper), (0x10594, 0x10595, .upper),
  (0x10597, 0x105A1, .lower), (0x105A3, 0x105B1, .lower), (0x105B3, 0x105B9, .lower),
  (0x105BB, 0x105BC, .lower), (0x105C0, 0x105F3, .other), (0x10600, 0x10736, .other),
  (0x10740, 0x10755, .other), (0x10760, 0x10767, .other), (0x10780, 0x10785, .other),
  (0x10787, 0x107B0, .other), (0x107B2, 0x107BF, .other), (0x10800, 0x10805, .other),
  (0x10808, 0x10808, .other), (0x1080A, 0x10835, .other), (0x10837, 0x10838, .other),
  (0x1083C, 0x1083C, .other), (0x1083F, 0x10855, .other), (0x10858, 0x1085F, .number),
  (0x10860, 0x10876, .other), (0x10879, 0x1087F, .number), (0x10880, 0x1089E, .other),
  (0x108A7, 0x108AF, .number), (0x108E0, 0x108F2, .other), (0x108F4, 0x108F5, .other),
  (0x108FB, 0x108FF, .number), (0x10900, 0x10915, .other), (0x10916, 0x1091B, .number),
  (0x10920, 0x10939, .other), (0x10940, 0x10959, .other), (0x10980, 0x109B7, .other),
  (0x109BC, 0x109BD, .number), (0x109BE, 0x109BF, .other), (0x109C0, 0x109CF, .number),
  (0x109D2, 0x109FF, .number), (0x10A00, 0x10A00, .other), (0x10A10, 0x10A13, .other),
  (0x10A15, 0x10A17, .other), (0x10A19, 0x10A35, .other), (0x10A40, 0x10A48, .number),
  (0x10A60, 0x10A7C, .other), (0x10A7D, 0x10A7E, .number), (0x10A80, 0x10A9C, .other),
  (0x10A9D, 0x10A9F, .number), (0x10AC0, 0x10AC7, .other), (0x10AC9, 0x10AE4, .other),
  (0x10AEB, 0x10AEF, .number), (0x10B00, 0x10B35, .other), (0x10B40, 0x10B55, .other),
  (0x10B58, 0x10B5F, .number), (0x10B60, 0x10B72, .other), (0x10B78, 0x10B7F, .number),
  (0x10B80, 0x10B91, .other), (0x10BA9, 0x10BAF, .number), (0x10C00, 0x10C48, .other),
  (0x10C80, 0x10CB2, .upper), (0x10CC0, 0x10CF2, .lower), (0x10CFA, 0x10CFF, .number),
  (0x10D00, 0x10D23, .other), (0x10D30, 0x10D39, .number), (0x10D40, 0x10D49, .number),
  (0x10D4A, 0x10D4F, .other), (0x10D50, 0x10D65, .upper), (0x10D6F, 0x10D6F, .other),
  (0x10D70, 0x10D85, .lower), (0x10E60, 0x10E7E, .number), (0x10E80, 0x10EA9, .other),
  (0x10EB0, 0x10EB1, .other), (0x10EC2, 0x10EC7, .other), (0x10ED9, 0x10EEE, .other),
  (0x10F00, 0x10F1C, .other), (0x10F1D, 0x10F26, .number), (0x10F27, 0x10F27, .other),
  (0x10F30, 0x10F45, .other), (0x10F51, 0x10F54, .number), (0x10F70, 0x10F81, .other),
  (0x10FB0, 0x10FC4, .other), (0x10FC5, 0x10FCB, .number), (0x10FE0, 0x10FF6, .other),
  (0x11003, 0x11037, .other), (0x11052, 0x1106F, .number), (0x11071, 0x11072, .other),
  (0x11075, 0x11075, .other), (0x11083, 0x110AF, .other), (0x110D0, 0x110E8, .other),
  (0x110F0, 0x110F9, .number), (0x11103, 0x11126, .other), (0x11136, 0x1113F, .number),
  (0x11144, 0x11144, .other), (0x11147, 0x11147, .other), (0x11150, 0x11172, .other),
  (0x11176, 0x11176, .other), (0x11183, 0x111B2, .other), (0x111C1, 0x111C4, .other),
  (0x111D0, 0x111D9, .number), (0x111DA, 0x111DA, .other), (0x111DC, 0x111DC, .other),
  (0x111E1, 0x111F4, .number), (0x11200, 0x11211, .other), (0x11213, 0x1122B, .other),
  (0x1123F, 0x11240, .other), (0x11280, 0x11286, .other), (0x11288, 0x11288, .other),
  (0x1128A, 0x1128D, .other), (0x1128F, 0x1129D, .other), (0x1129F, 0x112A8, .other),
  (0x112B0, 0x112DE, .other), (0x112F0, 0x112F9, .number), (0x11305, 0x1130C, .other),
  (0x1130F, 0x11310, .other), (0x11313, 0x11328, .other), (0x1132A, 0x11330, .other),
  (0x11332, 0x11333, .other), (0x11335, 0x11339, .other), (0x1133D, 0x1133D, .other),
  (0x11350, 0x11350, .other), (0x1135D, 0x11361, .other), (0x11380, 0x11389, .other),
  (0x1138B, 0x1138B, .other), (0x1138E, 0x1138E, .other), (0x11390, 0x113B5, .other),
  (0x113B7, 0x113B7, .other), (0x113D1, 0x113D1, .other), (0x113D3, 0x113D3, .other),
  (0x11400, 0x11434, .other), (0x11447, 0x1144A, .other), (0x11450, 0x11459, .number),
  (0x1145F, 0x11461, .other), (0x11480, 0x114AF, .other), (0x114C4, 0x114C5, .other),
  (0x114C7, 0x114C7, .other), (0x114D0, 0x114D9, .number), (0x11580, 0x115AE, .other),
  (0x115D8, 0x115DB, .other), (0x11600, 0x1162F, .other), (0x11644, 0x11644, .other),
  (0x11650, 0x11659, .number), (0x11680, 0x116AA, .other), (0x116B8, 0x116B8, .other),
  (0x116C0, 0x116C9, .number), (0x116D0, 0x116E3, .number), (0x11700, 0x1171A, .other),
  (0x11730, 0x1173B, .number), (0x11740, 0x11746, .other), (0x11800, 0x1182B, .other),
  (0x118A0, 0x118BF, .upper), (0x118C0, 0x118DF, .lower), (0x118E0, 0x118F2, .number),
  (0x118FF, 0x11906, .other), (0x11909, 0x11909, .other), (0x1190C, 0x11913, .other),
  (0x11915, 0x11916, .other), (0x11918, 0x1192F, .other), (0x1193F, 0x1193F, .other),
  (0x11941, 0x11941, .other), (0x11950, 0x11959, .number), (0x119A0, 0x119A7, .other),
  (0x119AA, 0x119D0, .other), (0x119E1, 0x119E1, .other), (0x119E3, 0x119E3, .other),
  (0x11A00, 0x11A00, .other), (0x11A0B, 0x11A32, .other), (0x11A3A, 0x11A3A, .other),
  (0x11A50, 0x11A50, .other), (0x11A5C, 0x11A89, .other), (0x11A9D, 0x11A9D, .other),
  (0x11AB0, 0x11AF8, .other), (0x11B0A, 0x11B0A, .other), (0x11BC0, 0x11BE0, .other),
  (0x11BF0, 0x11BF9, .number), (0x11C00, 0x11C08, .other), (0x11C0A, 0x11C2E, .other),
  (0x11C40, 0x11C40, .other), (0x11C50, 0x11C6C, .number), (0x11C72, 0x11C8F, .other),
  (0x11D00, 0x11D06, .other), (0x11D08, 0x11D09, .other), (0x11D0B, 0x11D30, .other),
  (0x11D46, 0x11D46, .other), (0x11D50, 0x11D59, .number), (0x11D60, 0x11D65, .other),
  (0x11D67, 0x11D68, .other), (0x11D6A, 0x11D89, .other), (0x11D98, 0x11D98, .other),
  (0x11DA0, 0x11DA9, .number), (0x11DB0, 0x11DDB, .other), (0x11DE0, 0x11DE9, .number),
  (0x11DF0, 0x11DF1, .other), (0x11EE0, 0x11EF2, .other), (0x11F02, 0x11F02, .other),
  (0x11F04, 0x11F10, .other), (0x11F12, 0x11F33, .other), (0x11F50, 0x11F59, .number),
  (0x11FB0, 0x11FB0, .other), (0x11FC0, 0x11FD4, .number), (0x12000, 0x12399, .other),
  (0x12400, 0x1246F, .number), (0x12475, 0x1247F, .number), (0x12480, 0x12543, .other),
  (0x12550, 0x12686, .number), (0x12F90, 0x12FF0, .other), (0x13000, 0x1342F, .other),
  (0x13441, 0x13446, .other), (0x13460, 0x143FA, .other), (0x14400, 0x14646, .other),
  (0x16100, 0x1611D, .other), (0x16130, 0x16139, .number), (0x16800, 0x16A38, .other),
  (0x16A40, 0x16A5E, .other), (0x16A60, 0x16A69, .number), (0x16A70, 0x16ABE, .other),
  (0x16AC0, 0x16AC9, .number), (0x16AD0, 0x16AED, .other), (0x16B00, 0x16B2F, .other),
  (0x16B40, 0x16B43, .other), (0x16B50, 0x16B59, .number), (0x16B5B, 0x16B61, .number),
  (0x16B63, 0x16B77, .other), (0x16B7D, 0x16B8F, .other), (0x16D40, 0x16D6C, .other),
  (0x16D70, 0x16D79, .number), (0x16D80, 0x16D9D, .other), (0x16DA0, 0x16DA9, .number),
  (0x16E40, 0x16E5F, .upper), (0x16E60, 0x16E7F, .lower), (0x16E80, 0x16E96, .number),
  (0x16EA0, 0x16EB8, .upper), (0x16EBB, 0x16ED3, .lower), (0x16F00, 0x16F4A, .other),
  (0x16F50, 0x16F50, .other), (0x16F93, 0x16F9F, .other), (0x16FE0, 0x16FE1, .other),
  (0x16FE3, 0x16FE3, .other), (0x16FF2, 0x16FF3, .other), (0x16FF4, 0x16FF6, .number),
  (0x17000, 0x18CDA, .other), (0x18CFF, 0x18D21, .other), (0x18D80, 0x18DF2, .other),
  (0x18E00, 0x19191, .other), (0x191A0, 0x191D2, .other), (0x1AFF0, 0x1AFF3, .other),
  (0x1AFF5, 0x1AFFB, .other), (0x1AFFD, 0x1AFFE, .other), (0x1B000, 0x1B123, .other),
  (0x1B132, 0x1B132, .other), (0x1B150, 0x1B152, .other), (0x1B155, 0x1B155, .other),
  (0x1B164, 0x1B167, .other), (0x1B170, 0x1B2FB, .other), (0x1BC00, 0x1BC6A, .other),
  (0x1BC70, 0x1BC7C, .other), (0x1BC80, 0x1BC88, .other), (0x1BC90, 0x1BC99, .other),
  (0x1CCF0, 0x1CCF9, .number), (0x1D2C0, 0x1D2D3, .number), (0x1D2E0, 0x1D2F3, .number),
  (0x1D360, 0x1D378, .number), (0x1D400, 0x1D419, .upper), (0x1D41A, 0x1D433, .lower),
  (0x1D434, 0x1D44D, .upper), (0x1D44E, 0x1D454, .lower), (0x1D456, 0x1D467, .lower),
  (0x1D468, 0x1D481, .upper), (0x1D482, 0x1D49B, .lower), (0x1D49C, 0x1D49C, .upper),
  (0x1D49E, 0x1D49F, .upper), (0x1D4A2, 0x1D4A2, .upper), (0x1D4A5, 0x1D4A6, .upper),
  (0x1D4A9, 0x1D4AC, .upper), (0x1D4AE, 0x1D4B5, .upper), (0x1D4B6, 0x1D4B9, .lower),
  (0x1D4BB, 0x1D4BB, .lower), (0x1D4BD, 0x1D4C3, .lower), (0x1D4C5, 0x1D4CF, .lower),
  (0x1D4D0, 0x1D4E9, .upper), (0x1D4EA, 0x1D503, .lower), (0x1D504, 0x1D505, .upper),
  (0x1D507, 0x1D50A, .upper), (0x1D50D, 0x1D514, .upper), (0x1D516, 0x1D51C, .upper),
  (0x1D51E, 0x1D537, .lower), (0x1D538, 0x1D539, .upper), (0x1D53B, 0x1D53E, .upper),
  (0x1D540, 0x1D544, .upper), (0x1D546, 0x1D546, .upper), (0x1D54A, 0x1D550, .upper),
  (0x1D552, 0x1D56B, .lower), (0x1D56C, 0x1D585, .upper), (0x1D586, 0x1D59F, .lower),
  (0x1D5A0, 0x1D5B9, .upper), (0x1D5BA, 0x1D5D3, .lower), (0x1D5D4, 0x1D5ED, .upper),
  (0x1D5EE, 0x1D607, .lower), (0x1D608, 0x1D621, .upper), (0x1D622, 0x1D63B, .lower),
  (0x1D63C, 0x1D655, .upper), (0x1D656, 0x1D66F, .lower), (0x1D670, 0x1D689, .upper),
  (0x1D68A, 0x1D6A6, .lower), (0x1D6A8, 0x1D6C0, .upper), (0x1D6C2, 0x1D6DA, .lower),
  (0x1D6DC, 0x1D6E1, .lower), (0x1D6E2, 0x1D6FA, .upper), (0x1D6FC, 0x1D714, .lower),
  (0x1D716, 0x1D71B, .lower), (0x1D71C, 0x1D734, .upper), (0x1D736, 0x1D74E, .lower),
  (0x1D750, 0x1D755, .lower), (0x1D756, 0x1D76E, .upper), (0x1D770, 0x1D788, .lower),
  (0x1D78A, 0x1D78F, .lower), (0x1D790, 0x1D7A8, .upper), (0x1D7AA, 0x1D7C2, .lower),
  (0x1D7C4, 0x1D7C9, .lower), (0x1D7CA, 0x1D7CA, .upper), (0x1D7CB, 0x1D7CB, .lower),
  (0x1D7CE, 0x1D7FF, .number), (0x1DF00, 0x1DF09, .lower), (0x1DF0A, 0x1DF0A, .other),
  (0x1DF0B, 0x1DF3F, .lower), (0x1DF40, 0x1DF51, .upper), (0x1DF52, 0x1DF67, .lower),
  (0x1DF68, 0x1DF8F, .other), (0x1DF90, 0x1DF90, .lower), (0x1DF91, 0x1DFFF, .other),
  (0x1E030, 0x1E06D, .other), (0x1E100, 0x1E12C, .other), (0x1E137, 0x1E13D, .other),
  (0x1E140, 0x1E149, .number), (0x1E14E, 0x1E14E, .other), (0x1E290, 0x1E2AD, .other),
  (0x1E2C0, 0x1E2EB, .other), (0x1E2F0, 0x1E2F9, .number), (0x1E4D0, 0x1E4EB, .other),
  (0x1E4F0, 0x1E4F9, .number), (0x1E5D0, 0x1E5ED, .other), (0x1E5F0, 0x1E5F0, .other),
  (0x1E5F1, 0x1E5FA, .number), (0x1E6C0, 0x1E6DE, .other), (0x1E6E0, 0x1E6E2, .other),
  (0x1E6E4, 0x1E6E5, .other), (0x1E6E7, 0x1E6ED, .other), (0x1E6F0, 0x1E6F4, .other),
  (0x1E6FE, 0x1E6FF, .other), (0x1E7E0, 0x1E7E6, .other), (0x1E7E8, 0x1E7EB, .other),
  (0x1E7ED, 0x1E7EE, .other), (0x1E7F0, 0x1E7FE, .other), (0x1E800, 0x1E8C4, .other),
  (0x1E8C7, 0x1E8CF, .number), (0x1E900, 0x1E921, .upper), (0x1E922, 0x1E943, .lower),
  (0x1E94B, 0x1E94B, .other), (0x1E950, 0x1E959, .number), (0x1EC71, 0x1ECAB, .number),
  (0x1ECAD, 0x1ECAF, .number), (0x1ECB1, 0x1ECB4, .number), (0x1ED01, 0x1ED2D, .number),
  (0x1ED2F, 0x1ED3D, .number), (0x1EE00, 0x1EE03, .other), (0x1EE05, 0x1EE1F, .other),
  (0x1EE21, 0x1EE22, .other), (0x1EE24, 0x1EE24, .other), (0x1EE27, 0x1EE27, .other),
  (0x1EE29, 0x1EE32, .other), (0x1EE34, 0x1EE37, .other), (0x1EE39, 0x1EE39, .other),
  (0x1EE3B, 0x1EE3B, .other), (0x1EE42, 0x1EE42, .other), (0x1EE47, 0x1EE47, .other),
  (0x1EE49, 0x1EE49, .other), (0x1EE4B, 0x1EE4B, .other), (0x1EE4D, 0x1EE4F, .other),
  (0x1EE51, 0x1EE52, .other), (0x1EE54, 0x1EE54, .other), (0x1EE57, 0x1EE57, .other),
  (0x1EE59, 0x1EE59, .other), (0x1EE5B, 0x1EE5B, .other), (0x1EE5D, 0x1EE5D, .other),
  (0x1EE5F, 0x1EE5F, .other), (0x1EE61, 0x1EE62, .other), (0x1EE64, 0x1EE64, .other),
  (0x1EE67, 0x1EE6A, .other), (0x1EE6C, 0x1EE72, .other), (0x1EE74, 0x1EE77, .other),
  (0x1EE79, 0x1EE7C, .other), (0x1EE7E, 0x1EE7E, .other), (0x1EE80, 0x1EE89, .other),
  (0x1EE8B, 0x1EE9B, .other), (0x1EEA1, 0x1EEA3, .other), (0x1EEA5, 0x1EEA9, .other),
  (0x1EEAB, 0x1EEBB, .other), (0x1F100, 0x1F10C, .number), (0x1FBF0, 0x1FBF9, .number),
  (0x20000, 0x2A6DF, .other), (0x2A700, 0x2B81D, .other), (0x2B820, 0x2CEAD, .other),
  (0x2CEB0, 0x2EBE0, .other), (0x2EBF0, 0x2EE5D, .other), (0x2F800, 0x2FA1D, .other),
  (0x30000, 0x3134A, .other), (0x31350, 0x33479, .other), (0x3D000, 0x3FC3F, .other)]

/-- All letters and numbers. -/
def wordBlocks : RangeMap WordBlock := lowBlocks ++ highBlocks ++ supplementaryBlocks

/-- The class of a letter or number, `none` for every other character. -/
def wordClass? (c : Char) : Option WordClass :=
  (wordBlocks.find? c.toNat).map fun (offset, block) => block.classAt offset

/-- Letters of every kind: capital, small, titlecase, modifier and caseless ones. -/
def isLetter (c : Char) : Bool :=
  match wordClass? c with
  | some .upper | some .lower | some .other => true
  | _ => false

/-- Decimal digits, letter numbers and other numbers. -/
def isNumber (c : Char) : Bool := wordClass? c == some .number

/-- Capital letters. -/
def isUpper (c : Char) : Bool := wordClass? c == some .upper

/-- Small letters. -/
def isLower (c : Char) : Bool := wordClass? c == some .lower

end MlogHighlight.Unicode
