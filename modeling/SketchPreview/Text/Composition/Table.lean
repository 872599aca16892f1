import SketchPreview.Text.CodeTable

/-!
# Marks and composed characters

Three tables of the Unicode standard, version 17.0: the classes that order the marks behind a
letter, the parts of composed characters and the characters that are never composed again. The
syllables of Hangul are no part of them.

* `ClassRange`, `combiningClasses`;
* `decompositionRows`: one step of taking a character apart;
* `uncomposedRanges`.
-/

namespace SketchPreview.Text

/-- The code points from `first` to `last`, whose combining class is not zero. -/
structure ClassRange where
  first : Nat
  last : Nat
  rank : Nat
  deriving DecidableEq, Repr

/-- The combining classes that are not zero. -/
def combiningClasses : List ClassRange :=
  [⟨0x300, 0x314, 230⟩, ⟨0x315, 0x315, 232⟩, ⟨0x316, 0x319, 220⟩, ⟨0x31A, 0x31A, 232⟩,
    ⟨0x31B, 0x31B, 216⟩, ⟨0x31C, 0x320, 220⟩, ⟨0x321, 0x322, 202⟩, ⟨0x323, 0x326, 220⟩,
    ⟨0x327, 0x328, 202⟩, ⟨0x329, 0x333, 220⟩, ⟨0x334, 0x338, 1⟩, ⟨0x339, 0x33C, 220⟩,
    ⟨0x33D, 0x344, 230⟩, ⟨0x345, 0x345, 240⟩, ⟨0x346, 0x346, 230⟩, ⟨0x347, 0x349, 220⟩,
    ⟨0x34A, 0x34C, 230⟩, ⟨0x34D, 0x34E, 220⟩, ⟨0x350, 0x352, 230⟩, ⟨0x353, 0x356, 220⟩,
    ⟨0x357, 0x357, 230⟩, ⟨0x358, 0x358, 232⟩, ⟨0x359, 0x35A, 220⟩, ⟨0x35B, 0x35B, 230⟩,
    ⟨0x35C, 0x35C, 233⟩, ⟨0x35D, 0x35E, 234⟩, ⟨0x35F, 0x35F, 233⟩, ⟨0x360, 0x361, 234⟩,
    ⟨0x362, 0x362, 233⟩, ⟨0x363, 0x36F, 230⟩, ⟨0x483, 0x487, 230⟩, ⟨0x591, 0x591, 220⟩,
    ⟨0x592, 0x595, 230⟩, ⟨0x596, 0x596, 220⟩, ⟨0x597, 0x599, 230⟩, ⟨0x59A, 0x59A, 222⟩,
    ⟨0x59B, 0x59B, 220⟩, ⟨0x59C, 0x5A1, 230⟩, ⟨0x5A2, 0x5A7, 220⟩, ⟨0x5A8, 0x5A9, 230⟩,
    ⟨0x5AA, 0x5AA, 220⟩, ⟨0x5AB, 0x5AC, 230⟩, ⟨0x5AD, 0x5AD, 222⟩, ⟨0x5AE, 0x5AE, 228⟩,
    ⟨0x5AF, 0x5AF, 230⟩, ⟨0x5B0, 0x5B0, 10⟩, ⟨0x5B1, 0x5B1, 11⟩, ⟨0x5B2, 0x5B2, 12⟩,
    ⟨0x5B3, 0x5B3, 13⟩, ⟨0x5B4, 0x5B4, 14⟩, ⟨0x5B5, 0x5B5, 15⟩, ⟨0x5B6, 0x5B6, 16⟩,
    ⟨0x5B7, 0x5B7, 17⟩, ⟨0x5B8, 0x5B8, 18⟩, ⟨0x5B9, 0x5BA, 19⟩, ⟨0x5BB, 0x5BB, 20⟩,
    ⟨0x5BC, 0x5BC, 21⟩, ⟨0x5BD, 0x5BD, 22⟩, ⟨0x5BF, 0x5BF, 23⟩, ⟨0x5C1, 0x5C1, 24⟩,
    ⟨0x5C2, 0x5C2, 25⟩, ⟨0x5C4, 0x5C4, 230⟩, ⟨0x5C5, 0x5C5, 220⟩, ⟨0x5C7, 0x5C7, 18⟩,
    ⟨0x610, 0x617, 230⟩, ⟨0x618, 0x618, 30⟩, ⟨0x619, 0x619, 31⟩, ⟨0x61A, 0x61A, 32⟩,
    ⟨0x64B, 0x64B, 27⟩, ⟨0x64C, 0x64C, 28⟩, ⟨0x64D, 0x64D, 29⟩, ⟨0x64E, 0x64E, 30⟩,
    ⟨0x64F, 0x64F, 31⟩, ⟨0x650, 0x650, 32⟩, ⟨0x651, 0x651, 33⟩, ⟨0x652, 0x652, 34⟩,
    ⟨0x653, 0x654, 230⟩, ⟨0x655, 0x656, 220⟩, ⟨0x657, 0x65B, 230⟩, ⟨0x65C, 0x65C, 220⟩,
    ⟨0x65D, 0x65E, 230⟩, ⟨0x65F, 0x65F, 220⟩, ⟨0x670, 0x670, 35⟩, ⟨0x6D6, 0x6DC, 230⟩,
    ⟨0x6DF, 0x6E2, 230⟩, ⟨0x6E3, 0x6E3, 220⟩, ⟨0x6E4, 0x6E4, 230⟩, ⟨0x6E7, 0x6E8, 230⟩,
    ⟨0x6EA, 0x6EA, 220⟩, ⟨0x6EB, 0x6EC, 230⟩, ⟨0x6ED, 0x6ED, 220⟩, ⟨0x711, 0x711, 36⟩,
    ⟨0x730, 0x730, 230⟩, ⟨0x731, 0x731, 220⟩, ⟨0x732, 0x733, 230⟩, ⟨0x734, 0x734, 220⟩,
    ⟨0x735, 0x736, 230⟩, ⟨0x737, 0x739, 220⟩, ⟨0x73A, 0x73A, 230⟩, ⟨0x73B, 0x73C, 220⟩,
    ⟨0x73D, 0x73D, 230⟩, ⟨0x73E, 0x73E, 220⟩, ⟨0x73F, 0x741, 230⟩, ⟨0x742, 0x742, 220⟩,
    ⟨0x743, 0x743, 230⟩, ⟨0x744, 0x744, 220⟩, ⟨0x745, 0x745, 230⟩, ⟨0x746, 0x746, 220⟩,
    ⟨0x747, 0x747, 230⟩, ⟨0x748, 0x748, 220⟩, ⟨0x749, 0x74A, 230⟩, ⟨0x7EB, 0x7F1, 230⟩,
    ⟨0x7F2, 0x7F2, 220⟩, ⟨0x7F3, 0x7F3, 230⟩, ⟨0x7FD, 0x7FD, 220⟩, ⟨0x816, 0x819, 230⟩,
    ⟨0x81B, 0x823, 230⟩, ⟨0x825, 0x827, 230⟩, ⟨0x829, 0x82D, 230⟩, ⟨0x859, 0x85B, 220⟩,
    ⟨0x897, 0x898, 230⟩, ⟨0x899, 0x89B, 220⟩, ⟨0x89C, 0x89F, 230⟩, ⟨0x8CA, 0x8CE, 230⟩,
    ⟨0x8CF, 0x8D3, 220⟩, ⟨0x8D4, 0x8E1, 230⟩, ⟨0x8E3, 0x8E3, 220⟩, ⟨0x8E4, 0x8E5, 230⟩,
    ⟨0x8E6, 0x8E6, 220⟩, ⟨0x8E7, 0x8E8, 230⟩, ⟨0x8E9, 0x8E9, 220⟩, ⟨0x8EA, 0x8EC, 230⟩,
    ⟨0x8ED, 0x8EF, 220⟩, ⟨0x8F0, 0x8F0, 27⟩, ⟨0x8F1, 0x8F1, 28⟩, ⟨0x8F2, 0x8F2, 29⟩,
    ⟨0x8F3, 0x8F5, 230⟩, ⟨0x8F6, 0x8F6, 220⟩, ⟨0x8F7, 0x8F8, 230⟩, ⟨0x8F9, 0x8FA, 220⟩,
    ⟨0x8FB, 0x8FF, 230⟩, ⟨0x93C, 0x93C, 7⟩, ⟨0x94D, 0x94D, 9⟩, ⟨0x951, 0x951, 230⟩,
    ⟨0x952, 0x952, 220⟩, ⟨0x953, 0x954, 230⟩, ⟨0x9BC, 0x9BC, 7⟩, ⟨0x9CD, 0x9CD, 9⟩,
    ⟨0x9FE, 0x9FE, 230⟩, ⟨0xA3C, 0xA3C, 7⟩, ⟨0xA4D, 0xA4D, 9⟩, ⟨0xABC, 0xABC, 7⟩, ⟨0xACD, 0xACD, 9⟩,
    ⟨0xB3C, 0xB3C, 7⟩, ⟨0xB4D, 0xB4D, 9⟩, ⟨0xBCD, 0xBCD, 9⟩, ⟨0xC3C, 0xC3C, 7⟩, ⟨0xC4D, 0xC4D, 9⟩,
    ⟨0xC55, 0xC55, 84⟩, ⟨0xC56, 0xC56, 91⟩, ⟨0xCBC, 0xCBC, 7⟩, ⟨0xCCD, 0xCCD, 9⟩, ⟨0xD3B, 0xD3C, 9⟩,
    ⟨0xD4D, 0xD4D, 9⟩, ⟨0xDCA, 0xDCA, 9⟩, ⟨0xE38, 0xE39, 103⟩, ⟨0xE3A, 0xE3A, 9⟩,
    ⟨0xE48, 0xE4B, 107⟩, ⟨0xEB8, 0xEB9, 118⟩, ⟨0xEBA, 0xEBA, 9⟩, ⟨0xEC8, 0xECB, 122⟩,
    ⟨0xF18, 0xF19, 220⟩, ⟨0xF35, 0xF35, 220⟩, ⟨0xF37, 0xF37, 220⟩, ⟨0xF39, 0xF39, 216⟩,
    ⟨0xF71, 0xF71, 129⟩, ⟨0xF72, 0xF72, 130⟩, ⟨0xF74, 0xF74, 132⟩, ⟨0xF7A, 0xF7D, 130⟩,
    ⟨0xF80, 0xF80, 130⟩, ⟨0xF82, 0xF83, 230⟩, ⟨0xF84, 0xF84, 9⟩, ⟨0xF86, 0xF87, 230⟩,
    ⟨0xFC6, 0xFC6, 220⟩, ⟨0x1037, 0x1037, 7⟩, ⟨0x1039, 0x103A, 9⟩, ⟨0x108D, 0x108D, 220⟩,
    ⟨0x135D, 0x135F, 230⟩, ⟨0x1714, 0x1715, 9⟩, ⟨0x1734, 0x1734, 9⟩, ⟨0x17D2, 0x17D2, 9⟩,
    ⟨0x17DD, 0x17DD, 230⟩, ⟨0x18A9, 0x18A9, 228⟩, ⟨0x1939, 0x1939, 222⟩, ⟨0x193A, 0x193A, 230⟩,
    ⟨0x193B, 0x193B, 220⟩, ⟨0x1A17, 0x1A17, 230⟩, ⟨0x1A18, 0x1A18, 220⟩, ⟨0x1A60, 0x1A60, 9⟩,
    ⟨0x1A75, 0x1A7C, 230⟩, ⟨0x1A7F, 0x1A7F, 220⟩, ⟨0x1AB0, 0x1AB4, 230⟩, ⟨0x1AB5, 0x1ABA, 220⟩,
    ⟨0x1ABB, 0x1ABC, 230⟩, ⟨0x1ABD, 0x1ABD, 220⟩, ⟨0x1ABF, 0x1AC0, 220⟩, ⟨0x1AC1, 0x1AC2, 230⟩,
    ⟨0x1AC3, 0x1AC4, 220⟩, ⟨0x1AC5, 0x1AC9, 230⟩, ⟨0x1ACA, 0x1ACA, 220⟩, ⟨0x1ACB, 0x1ADC, 230⟩,
    ⟨0x1ADD, 0x1ADD, 220⟩, ⟨0x1AE0, 0x1AE5, 230⟩, ⟨0x1AE6, 0x1AE6, 220⟩, ⟨0x1AE7, 0x1AEA, 230⟩,
    ⟨0x1AEB, 0x1AEB, 234⟩, ⟨0x1B34, 0x1B34, 7⟩, ⟨0x1B44, 0x1B44, 9⟩, ⟨0x1B6B, 0x1B6B, 230⟩,
    ⟨0x1B6C, 0x1B6C, 220⟩, ⟨0x1B6D, 0x1B73, 230⟩, ⟨0x1BAA, 0x1BAB, 9⟩, ⟨0x1BE6, 0x1BE6, 7⟩,
    ⟨0x1BF2, 0x1BF3, 9⟩, ⟨0x1C37, 0x1C37, 7⟩, ⟨0x1CD0, 0x1CD2, 230⟩, ⟨0x1CD4, 0x1CD4, 1⟩,
    ⟨0x1CD5, 0x1CD9, 220⟩, ⟨0x1CDA, 0x1CDB, 230⟩, ⟨0x1CDC, 0x1CDF, 220⟩, ⟨0x1CE0, 0x1CE0, 230⟩,
    ⟨0x1CE2, 0x1CE8, 1⟩, ⟨0x1CED, 0x1CED, 220⟩, ⟨0x1CF4, 0x1CF4, 230⟩, ⟨0x1CF8, 0x1CF9, 230⟩,
    ⟨0x1DC0, 0x1DC1, 230⟩, ⟨0x1DC2, 0x1DC2, 220⟩, ⟨0x1DC3, 0x1DC9, 230⟩, ⟨0x1DCA, 0x1DCA, 220⟩,
    ⟨0x1DCB, 0x1DCC, 230⟩, ⟨0x1DCD, 0x1DCD, 234⟩, ⟨0x1DCE, 0x1DCE, 214⟩, ⟨0x1DCF, 0x1DCF, 220⟩,
    ⟨0x1DD0, 0x1DD0, 202⟩, ⟨0x1DD1, 0x1DF5, 230⟩, ⟨0x1DF6, 0x1DF6, 232⟩, ⟨0x1DF7, 0x1DF8, 228⟩,
    ⟨0x1DF9, 0x1DF9, 220⟩, ⟨0x1DFA, 0x1DFA, 218⟩, ⟨0x1DFB, 0x1DFB, 230⟩, ⟨0x1DFC, 0x1DFC, 233⟩,
    ⟨0x1DFD, 0x1DFD, 220⟩, ⟨0x1DFE, 0x1DFE, 230⟩, ⟨0x1DFF, 0x1DFF, 220⟩, ⟨0x20D0, 0x20D1, 230⟩,
    ⟨0x20D2, 0x20D3, 1⟩, ⟨0x20D4, 0x20D7, 230⟩, ⟨0x20D8, 0x20DA, 1⟩, ⟨0x20DB, 0x20DC, 230⟩,
    ⟨0x20E1, 0x20E1, 230⟩, ⟨0x20E5, 0x20E6, 1⟩, ⟨0x20E7, 0x20E7, 230⟩, ⟨0x20E8, 0x20E8, 220⟩,
    ⟨0x20E9, 0x20E9, 230⟩, ⟨0x20EA, 0x20EB, 1⟩, ⟨0x20EC, 0x20EF, 220⟩, ⟨0x20F0, 0x20F0, 230⟩,
    ⟨0x2CEF, 0x2CF1, 230⟩, ⟨0x2D7F, 0x2D7F, 9⟩, ⟨0x2DE0, 0x2DFF, 230⟩, ⟨0x302A, 0x302A, 218⟩,
    ⟨0x302B, 0x302B, 228⟩, ⟨0x302C, 0x302C, 232⟩, ⟨0x302D, 0x302D, 222⟩, ⟨0x302E, 0x302F, 224⟩,
    ⟨0x3099, 0x309A, 8⟩, ⟨0xA66F, 0xA66F, 230⟩, ⟨0xA674, 0xA67D, 230⟩, ⟨0xA69E, 0xA69F, 230⟩,
    ⟨0xA6F0, 0xA6F1, 230⟩, ⟨0xA806, 0xA806, 9⟩, ⟨0xA82C, 0xA82C, 9⟩, ⟨0xA8C4, 0xA8C4, 9⟩,
    ⟨0xA8E0, 0xA8F1, 230⟩, ⟨0xA92B, 0xA92D, 220⟩, ⟨0xA953, 0xA953, 9⟩, ⟨0xA9B3, 0xA9B3, 7⟩,
    ⟨0xA9C0, 0xA9C0, 9⟩, ⟨0xAAB0, 0xAAB0, 230⟩, ⟨0xAAB2, 0xAAB3, 230⟩, ⟨0xAAB4, 0xAAB4, 220⟩,
    ⟨0xAAB7, 0xAAB8, 230⟩, ⟨0xAABE, 0xAABF, 230⟩, ⟨0xAAC1, 0xAAC1, 230⟩, ⟨0xAAF6, 0xAAF6, 9⟩,
    ⟨0xABED, 0xABED, 9⟩, ⟨0xFB1E, 0xFB1E, 26⟩, ⟨0xFE20, 0xFE26, 230⟩, ⟨0xFE27, 0xFE2D, 220⟩,
    ⟨0xFE2E, 0xFE2F, 230⟩, ⟨0x101FD, 0x101FD, 220⟩, ⟨0x102E0, 0x102E0, 220⟩,
    ⟨0x10376, 0x1037A, 230⟩, ⟨0x10A0D, 0x10A0D, 220⟩, ⟨0x10A0F, 0x10A0F, 230⟩,
    ⟨0x10A38, 0x10A38, 230⟩, ⟨0x10A39, 0x10A39, 1⟩, ⟨0x10A3A, 0x10A3A, 220⟩, ⟨0x10A3F, 0x10A3F, 9⟩,
    ⟨0x10AE5, 0x10AE5, 230⟩, ⟨0x10AE6, 0x10AE6, 220⟩, ⟨0x10D24, 0x10D27, 230⟩,
    ⟨0x10D69, 0x10D6D, 230⟩, ⟨0x10EAB, 0x10EAC, 230⟩, ⟨0x10EFA, 0x10EFB, 220⟩,
    ⟨0x10EFD, 0x10EFF, 220⟩, ⟨0x10F46, 0x10F47, 220⟩, ⟨0x10F48, 0x10F4A, 230⟩,
    ⟨0x10F4B, 0x10F4B, 220⟩, ⟨0x10F4C, 0x10F4C, 230⟩, ⟨0x10F4D, 0x10F50, 220⟩,
    ⟨0x10F82, 0x10F82, 230⟩, ⟨0x10F83, 0x10F83, 220⟩, ⟨0x10F84, 0x10F84, 230⟩,
    ⟨0x10F85, 0x10F85, 220⟩, ⟨0x11046, 0x11046, 9⟩, ⟨0x11070, 0x11070, 9⟩, ⟨0x1107F, 0x1107F, 9⟩,
    ⟨0x110B9, 0x110B9, 9⟩, ⟨0x110BA, 0x110BA, 7⟩, ⟨0x11100, 0x11102, 230⟩, ⟨0x11133, 0x11134, 9⟩,
    ⟨0x11173, 0x11173, 7⟩, ⟨0x111C0, 0x111C0, 9⟩, ⟨0x111CA, 0x111CA, 7⟩, ⟨0x11235, 0x11235, 9⟩,
    ⟨0x11236, 0x11236, 7⟩, ⟨0x112E9, 0x112E9, 7⟩, ⟨0x112EA, 0x112EA, 9⟩, ⟨0x1133B, 0x1133C, 7⟩,
    ⟨0x1134D, 0x1134D, 9⟩, ⟨0x11366, 0x1136C, 230⟩, ⟨0x11370, 0x11374, 230⟩, ⟨0x113CE, 0x113D0, 9⟩,
    ⟨0x11442, 0x11442, 9⟩, ⟨0x11446, 0x11446, 7⟩, ⟨0x1145E, 0x1145E, 230⟩, ⟨0x114C2, 0x114C2, 9⟩,
    ⟨0x114C3, 0x114C3, 7⟩, ⟨0x115BF, 0x115BF, 9⟩, ⟨0x115C0, 0x115C0, 7⟩, ⟨0x1163F, 0x1163F, 9⟩,
    ⟨0x116B6, 0x116B6, 9⟩, ⟨0x116B7, 0x116B7, 7⟩, ⟨0x1172B, 0x1172B, 9⟩, ⟨0x11839, 0x11839, 9⟩,
    ⟨0x1183A, 0x1183A, 7⟩, ⟨0x1193D, 0x1193E, 9⟩, ⟨0x11943, 0x11943, 7⟩, ⟨0x119E0, 0x119E0, 9⟩,
    ⟨0x11A34, 0x11A34, 9⟩, ⟨0x11A47, 0x11A47, 9⟩, ⟨0x11A99, 0x11A99, 9⟩, ⟨0x11C3F, 0x11C3F, 9⟩,
    ⟨0x11D42, 0x11D42, 7⟩, ⟨0x11D44, 0x11D45, 9⟩, ⟨0x11D97, 0x11D97, 9⟩, ⟨0x11F41, 0x11F42, 9⟩,
    ⟨0x1612F, 0x1612F, 9⟩, ⟨0x16AF0, 0x16AF4, 1⟩, ⟨0x16B30, 0x16B36, 230⟩, ⟨0x16FF0, 0x16FF1, 6⟩,
    ⟨0x1BC9E, 0x1BC9E, 1⟩, ⟨0x1D165, 0x1D166, 216⟩, ⟨0x1D167, 0x1D169, 1⟩, ⟨0x1D16D, 0x1D16D, 226⟩,
    ⟨0x1D16E, 0x1D172, 216⟩, ⟨0x1D17B, 0x1D182, 220⟩, ⟨0x1D185, 0x1D189, 230⟩,
    ⟨0x1D18A, 0x1D18B, 220⟩, ⟨0x1D1AA, 0x1D1AD, 230⟩, ⟨0x1D242, 0x1D244, 230⟩,
    ⟨0x1E000, 0x1E006, 230⟩, ⟨0x1E008, 0x1E018, 230⟩, ⟨0x1E01B, 0x1E021, 230⟩,
    ⟨0x1E023, 0x1E024, 230⟩, ⟨0x1E026, 0x1E02A, 230⟩, ⟨0x1E08F, 0x1E08F, 230⟩,
    ⟨0x1E130, 0x1E136, 230⟩, ⟨0x1E2AE, 0x1E2AE, 230⟩, ⟨0x1E2EC, 0x1E2EF, 230⟩,
    ⟨0x1E4EC, 0x1E4ED, 232⟩, ⟨0x1E4EE, 0x1E4EE, 220⟩, ⟨0x1E4EF, 0x1E4EF, 230⟩,
    ⟨0x1E5EE, 0x1E5EE, 230⟩, ⟨0x1E5EF, 0x1E5EF, 220⟩, ⟨0x1E6E3, 0x1E6E3, 230⟩,
    ⟨0x1E6E6, 0x1E6E6, 230⟩, ⟨0x1E6EE, 0x1E6EF, 230⟩, ⟨0x1E6F5, 0x1E6F5, 230⟩,
    ⟨0x1E8D0, 0x1E8D6, 220⟩, ⟨0x1E944, 0x1E949, 230⟩, ⟨0x1E94A, 0x1E94A, 7⟩]

/-- The parts of composed characters: another character, or a character and one that follows it. -/
def decompositionRows : List FormRow :=
  [⟨0xC0, "A\u0300 A\u0301 A\u0302 A\u0303 A\u0308 A\u030a"⟩,
    ⟨0xC7, "C\u0327 E\u0300 E\u0301 E\u0302 E\u0308 I\u0300 I\u0301 I\u0302 I\u0308"⟩,
    ⟨0xD1, "N\u0303 O\u0300 O\u0301 O\u0302 O\u0303 O\u0308"⟩,
    ⟨0xD9, "U\u0300 U\u0301 U\u0302 U\u0308 Y\u0301"⟩,
    ⟨0xE0, "a\u0300 a\u0301 a\u0302 a\u0303 a\u0308 a\u030a"⟩,
    ⟨0xE7, "c\u0327 e\u0300 e\u0301 e\u0302 e\u0308 i\u0300 i\u0301 i\u0302 i\u0308"⟩,
    ⟨0xF1, "n\u0303 o\u0300 o\u0301 o\u0302 o\u0303 o\u0308"⟩,
    ⟨0xF9, "u\u0300 u\u0301 u\u0302 u\u0308 y\u0301"⟩, ⟨0xFF, "y\u0308"⟩,
    ⟨0x100, "A\u0304 a\u0304 A\u0306 a\u0306 A\u0328 a\u0328 C\u0301 c\u0301 C\u0302 c\u0302"⟩,
    ⟨0x10A, "C\u0307 c\u0307 C\u030c c\u030c D\u030c d\u030c"⟩,
    ⟨0x112, "E\u0304 e\u0304 E\u0306 e\u0306 E\u0307 e\u0307 E\u0328 e\u0328 E\u030c e\u030c"⟩,
    ⟨0x11C, "G\u0302 g\u0302 G\u0306 g\u0306"⟩,
    ⟨0x120, "G\u0307 g\u0307 G\u0327 g\u0327 H\u0302 h\u0302"⟩,
    ⟨0x128, "I\u0303 i\u0303 I\u0304 i\u0304 I\u0306 i\u0306 I\u0328 i\u0328"⟩, ⟨0x130, "I\u0307"⟩,
    ⟨0x134, "J\u0302 j\u0302 K\u0327 k\u0327"⟩,
    ⟨0x139, "L\u0301 l\u0301 L\u0327 l\u0327 L\u030c l\u030c"⟩,
    ⟨0x143, "N\u0301 n\u0301 N\u0327 n\u0327 N\u030c n\u030c"⟩,
    ⟨0x14C, "O\u0304 o\u0304 O\u0306 o\u0306"⟩, ⟨0x150, "O\u030b o\u030b"⟩,
    ⟨0x154, "R\u0301 r\u0301 R\u0327 r\u0327 R\u030c r\u030c S\u0301 s\u0301 S\u0302 s\u0302"⟩,
    ⟨0x15E, "S\u0327 s\u0327"⟩, ⟨0x160, "S\u030c s\u030c T\u0327 t\u0327 T\u030c t\u030c"⟩,
    ⟨0x168, "U\u0303 u\u0303 U\u0304 u\u0304 U\u0306 u\u0306 U\u030a u\u030a"⟩,
    ⟨0x170, "U\u030b u\u030b U\u0328 u\u0328 W\u0302 w\u0302 Y\u0302 y\u0302 Y\u0308 Z\u0301"⟩,
    ⟨0x17A, "z\u0301 Z\u0307 z\u0307 Z\u030c z\u030c"⟩, ⟨0x1A0, "O\u031b o\u031b"⟩,
    ⟨0x1AF, "U\u031b"⟩, ⟨0x1B0, "u\u031b"⟩, ⟨0x1CD, "A\u030c a\u030c I\u030c"⟩,
    ⟨0x1D0, "i\u030c O\u030c o\u030c U\u030c u\u030c Ü\u0304 ü\u0304 Ü\u0301 ü\u0301 Ü\u030c"⟩,
    ⟨0x1DA, "ü\u030c Ü\u0300 ü\u0300"⟩, ⟨0x1DE, "Ä\u0304 ä\u0304"⟩,
    ⟨0x1E0, "Ȧ\u0304 ȧ\u0304 Æ\u0304 æ\u0304"⟩,
    ⟨0x1E6, "G\u030c g\u030c K\u030c k\u030c O\u0328 o\u0328 Ǫ\u0304 ǫ\u0304 Ʒ\u030c ʒ\u030c"⟩,
    ⟨0x1F0, "j\u030c"⟩, ⟨0x1F4, "G\u0301 g\u0301"⟩,
    ⟨0x1F8, "N\u0300 n\u0300 Å\u0301 å\u0301 Æ\u0301 æ\u0301 Ø\u0301 ø\u0301"⟩,
    ⟨0x200, "A\u030f a\u030f A\u0311 a\u0311 E\u030f e\u030f E\u0311 e\u0311 I\u030f i\u030f"⟩,
    ⟨0x20A, "I\u0311 i\u0311 O\u030f o\u030f O\u0311 o\u0311"⟩,
    ⟨0x210, "R\u030f r\u030f R\u0311 r\u0311 U\u030f u\u030f U\u0311 u\u0311 S\u0326 s\u0326"⟩,
    ⟨0x21A, "T\u0326 t\u0326"⟩, ⟨0x21E, "H\u030c h\u030c"⟩,
    ⟨0x226, "A\u0307 a\u0307 E\u0327 e\u0327 Ö\u0304 ö\u0304 Õ\u0304 õ\u0304 O\u0307 o\u0307"⟩,
    ⟨0x230, "Ȯ\u0304 ȯ\u0304 Y\u0304 y\u0304"⟩, ⟨0x340, "\u0300 \u0301"⟩,
    ⟨0x343, "\u0313 \u0308\u0301"⟩, ⟨0x374, "ʹ"⟩, ⟨0x37E, ";"⟩,
    ⟨0x385, "¨\u0301 Α\u0301 · Ε\u0301 Η\u0301 Ι\u0301"⟩, ⟨0x38C, "Ο\u0301"⟩,
    ⟨0x38E, "Υ\u0301 Ω\u0301"⟩, ⟨0x390, "ϊ\u0301"⟩,
    ⟨0x3AA, "Ι\u0308 Υ\u0308 α\u0301 ε\u0301 η\u0301 ι\u0301"⟩, ⟨0x3B0, "ϋ\u0301"⟩,
    ⟨0x3CA, "ι\u0308 υ\u0308 ο\u0301 υ\u0301 ω\u0301"⟩, ⟨0x3D3, "ϒ\u0301 ϒ\u0308"⟩,
    ⟨0x400, "Е\u0300 Е\u0308"⟩, ⟨0x403, "Г\u0301"⟩, ⟨0x407, "І\u0308"⟩,
    ⟨0x40C, "К\u0301 И\u0300 У\u0306"⟩, ⟨0x419, "И\u0306"⟩, ⟨0x439, "и\u0306"⟩,
    ⟨0x450, "е\u0300 е\u0308"⟩, ⟨0x453, "г\u0301"⟩, ⟨0x457, "і\u0308"⟩,
    ⟨0x45C, "к\u0301 и\u0300 у\u0306"⟩, ⟨0x476, "Ѵ\u030f ѵ\u030f"⟩, ⟨0x4C1, "Ж\u0306 ж\u0306"⟩,
    ⟨0x4D0, "А\u0306 а\u0306 А\u0308 а\u0308"⟩, ⟨0x4D6, "Е\u0306 е\u0306"⟩,
    ⟨0x4DA, "Ә\u0308 ә\u0308 Ж\u0308 ж\u0308 З\u0308 з\u0308"⟩,
    ⟨0x4E2, "И\u0304 и\u0304 И\u0308 и\u0308 О\u0308 о\u0308"⟩,
    ⟨0x4EA, "Ө\u0308 ө\u0308 Э\u0308 э\u0308 У\u0304 у\u0304"⟩,
    ⟨0x4F0, "У\u0308 у\u0308 У\u030b у\u030b Ч\u0308 ч\u0308"⟩, ⟨0x4F8, "Ы\u0308 ы\u0308"⟩,
    ⟨0x622, "\u0627\u0653 \u0627\u0654 \u0648\u0654 \u0627\u0655 \u064a\u0654"⟩,
    ⟨0x6C0, "\u06d5\u0654"⟩, ⟨0x6C2, "\u06c1\u0654"⟩, ⟨0x6D3, "\u06d2\u0654"⟩, ⟨0x929, "न\u093c"⟩,
    ⟨0x931, "र\u093c"⟩, ⟨0x934, "ळ\u093c"⟩,
    ⟨0x958, "क\u093c ख\u093c ग\u093c ज\u093c ड\u093c ढ\u093c फ\u093c य\u093c"⟩,
    ⟨0x9CB, "\u09c7\u09be \u09c7\u09d7"⟩, ⟨0x9DC, "ড\u09bc ঢ\u09bc"⟩, ⟨0x9DF, "য\u09bc"⟩,
    ⟨0xA33, "ਲ\u0a3c"⟩, ⟨0xA36, "ਸ\u0a3c"⟩, ⟨0xA59, "ਖ\u0a3c ਗ\u0a3c ਜ\u0a3c"⟩, ⟨0xA5E, "ਫ\u0a3c"⟩,
    ⟨0xB48, "\u0b47\u0b56"⟩, ⟨0xB4B, "\u0b47\u0b3e \u0b47\u0b57"⟩, ⟨0xB5C, "ଡ\u0b3c ଢ\u0b3c"⟩,
    ⟨0xB94, "ஒ\u0bd7"⟩, ⟨0xBCA, "\u0bc6\u0bbe \u0bc7\u0bbe \u0bc6\u0bd7"⟩, ⟨0xC48, "\u0c46\u0c56"⟩,
    ⟨0xCC0, "\u0cbf\u0cd5"⟩, ⟨0xCC7, "\u0cc6\u0cd5 \u0cc6\u0cd6"⟩,
    ⟨0xCCA, "\u0cc6\u0cc2 \u0cca\u0cd5"⟩, ⟨0xD4A, "\u0d46\u0d3e \u0d47\u0d3e \u0d46\u0d57"⟩,
    ⟨0xDDA, "\u0dd9\u0dca"⟩, ⟨0xDDC, "\u0dd9\u0dcf \u0ddc\u0dca \u0dd9\u0ddf"⟩, ⟨0xF43, "ག\u0fb7"⟩,
    ⟨0xF4D, "ཌ\u0fb7"⟩, ⟨0xF52, "ད\u0fb7"⟩, ⟨0xF57, "བ\u0fb7"⟩, ⟨0xF5C, "ཛ\u0fb7"⟩,
    ⟨0xF69, "ཀ\u0fb5"⟩, ⟨0xF73, "\u0f71\u0f72"⟩, ⟨0xF75, "\u0f71\u0f74 \u0fb2\u0f80"⟩,
    ⟨0xF78, "\u0fb3\u0f80"⟩, ⟨0xF81, "\u0f71\u0f80"⟩, ⟨0xF93, "\u0f92\u0fb7"⟩,
    ⟨0xF9D, "\u0f9c\u0fb7"⟩, ⟨0xFA2, "\u0fa1\u0fb7"⟩, ⟨0xFA7, "\u0fa6\u0fb7"⟩,
    ⟨0xFAC, "\u0fab\u0fb7"⟩, ⟨0xFB9, "\u0f90\u0fb5"⟩, ⟨0x1026, "ဥ\u102e"⟩, ⟨0x1B06, "ᬅ\u1b35"⟩,
    ⟨0x1B08, "ᬇ\u1b35"⟩, ⟨0x1B0A, "ᬉ\u1b35"⟩, ⟨0x1B0C, "ᬋ\u1b35"⟩, ⟨0x1B0E, "ᬍ\u1b35"⟩,
    ⟨0x1B12, "ᬑ\u1b35"⟩, ⟨0x1B3B, "\u1b3a\u1b35"⟩, ⟨0x1B3D, "\u1b3c\u1b35"⟩,
    ⟨0x1B40, "\u1b3e\u1b35 \u1b3f\u1b35"⟩, ⟨0x1B43, "\u1b42\u1b35"⟩,
    ⟨0x1E00, "A\u0325 a\u0325 B\u0307 b\u0307 B\u0323 b\u0323 B\u0331 b\u0331 Ç\u0301 ç\u0301"⟩,
    ⟨0x1E0A, "D\u0307 d\u0307 D\u0323 d\u0323 D\u0331 d\u0331"⟩,
    ⟨0x1E10, "D\u0327 d\u0327 D\u032d d\u032d Ē\u0300 ē\u0300 Ē\u0301 ē\u0301 E\u032d e\u032d"⟩,
    ⟨0x1E1A, "E\u0330 e\u0330 Ȩ\u0306 ȩ\u0306 F\u0307 f\u0307"⟩,
    ⟨0x1E20, "G\u0304 g\u0304 H\u0307 h\u0307 H\u0323 h\u0323 H\u0308 h\u0308 H\u0327 h\u0327"⟩,
    ⟨0x1E2A, "H\u032e h\u032e I\u0330 i\u0330 Ï\u0301 ï\u0301"⟩,
    ⟨0x1E30, "K\u0301 k\u0301 K\u0323 k\u0323 K\u0331 k\u0331 L\u0323 l\u0323 Ḷ\u0304 ḷ\u0304"⟩,
    ⟨0x1E3A, "L\u0331 l\u0331 L\u032d l\u032d M\u0301 m\u0301"⟩,
    ⟨0x1E40, "M\u0307 m\u0307 M\u0323 m\u0323 N\u0307 n\u0307 N\u0323 n\u0323 N\u0331 n\u0331"⟩,
    ⟨0x1E4A, "N\u032d n\u032d Õ\u0301 õ\u0301 Õ\u0308 õ\u0308"⟩,
    ⟨0x1E50, "Ō\u0300 ō\u0300 Ō\u0301 ō\u0301 P\u0301 p\u0301 P\u0307 p\u0307 R\u0307 r\u0307"⟩,
    ⟨0x1E5A, "R\u0323 r\u0323 Ṛ\u0304 ṛ\u0304 R\u0331 r\u0331"⟩,
    ⟨0x1E60, "S\u0307 s\u0307 S\u0323 s\u0323 Ś\u0307 ś\u0307 Š\u0307 š\u0307 Ṣ\u0307 ṣ\u0307"⟩,
    ⟨0x1E6A, "T\u0307 t\u0307 T\u0323 t\u0323 T\u0331 t\u0331"⟩,
    ⟨0x1E70, "T\u032d t\u032d U\u0324 u\u0324 U\u0330 u\u0330 U\u032d u\u032d Ũ\u0301 ũ\u0301"⟩,
    ⟨0x1E7A, "Ū\u0308 ū\u0308 V\u0303 v\u0303 V\u0323 v\u0323"⟩,
    ⟨0x1E80, "W\u0300 w\u0300 W\u0301 w\u0301 W\u0308 w\u0308 W\u0307 w\u0307 W\u0323 w\u0323"⟩,
    ⟨0x1E8A, "X\u0307 x\u0307 X\u0308 x\u0308 Y\u0307 y\u0307"⟩,
    ⟨0x1E90, "Z\u0302 z\u0302 Z\u0323 z\u0323 Z\u0331 z\u0331 h\u0331 t\u0308 w\u030a y\u030a"⟩,
    ⟨0x1E9B, "ſ\u0307"⟩,
    ⟨0x1EA0, "A\u0323 a\u0323 A\u0309 a\u0309 Â\u0301 â\u0301 Â\u0300 â\u0300 Â\u0309 â\u0309"⟩,
    ⟨0x1EAA, "Â\u0303 â\u0303 Ạ\u0302 ạ\u0302 Ă\u0301 ă\u0301"⟩,
    ⟨0x1EB0, "Ă\u0300 ă\u0300 Ă\u0309 ă\u0309 Ă\u0303 ă\u0303 Ạ\u0306 ạ\u0306 E\u0323 e\u0323"⟩,
    ⟨0x1EBA, "E\u0309 e\u0309 E\u0303 e\u0303 Ê\u0301 ê\u0301"⟩,
    ⟨0x1EC0, "Ê\u0300 ê\u0300 Ê\u0309 ê\u0309 Ê\u0303 ê\u0303 Ẹ\u0302 ẹ\u0302 I\u0309 i\u0309"⟩,
    ⟨0x1ECA, "I\u0323 i\u0323 O\u0323 o\u0323 O\u0309 o\u0309"⟩,
    ⟨0x1ED0, "Ô\u0301 ô\u0301 Ô\u0300 ô\u0300 Ô\u0309 ô\u0309 Ô\u0303 ô\u0303 Ọ\u0302 ọ\u0302"⟩,
    ⟨0x1EDA, "Ơ\u0301 ơ\u0301 Ơ\u0300 ơ\u0300 Ơ\u0309 ơ\u0309"⟩,
    ⟨0x1EE0, "Ơ\u0303 ơ\u0303 Ơ\u0323 ơ\u0323 U\u0323 u\u0323 U\u0309 u\u0309 Ư\u0301 ư\u0301"⟩,
    ⟨0x1EEA, "Ư\u0300 ư\u0300 Ư\u0309 ư\u0309 Ư\u0303 ư\u0303"⟩,
    ⟨0x1EF0, "Ư\u0323 ư\u0323 Y\u0300 y\u0300 Y\u0323 y\u0323 Y\u0309 y\u0309 Y\u0303 y\u0303"⟩,
    ⟨0x1F00, "α\u0313 α\u0314 ἀ\u0300 ἁ\u0300 ἀ\u0301 ἁ\u0301 ἀ\u0342 ἁ\u0342 Α\u0313 Α\u0314"⟩,
    ⟨0x1F0A, "Ἀ\u0300 Ἁ\u0300 Ἀ\u0301 Ἁ\u0301 Ἀ\u0342 Ἁ\u0342"⟩,
    ⟨0x1F10, "ε\u0313 ε\u0314 ἐ\u0300 ἑ\u0300 ἐ\u0301 ἑ\u0301"⟩,
    ⟨0x1F18, "Ε\u0313 Ε\u0314 Ἐ\u0300 Ἑ\u0300 Ἐ\u0301 Ἑ\u0301"⟩,
    ⟨0x1F20, "η\u0313 η\u0314 ἠ\u0300 ἡ\u0300 ἠ\u0301 ἡ\u0301 ἠ\u0342 ἡ\u0342 Η\u0313 Η\u0314"⟩,
    ⟨0x1F2A, "Ἠ\u0300 Ἡ\u0300 Ἠ\u0301 Ἡ\u0301 Ἠ\u0342 Ἡ\u0342"⟩,
    ⟨0x1F30, "ι\u0313 ι\u0314 ἰ\u0300 ἱ\u0300 ἰ\u0301 ἱ\u0301 ἰ\u0342 ἱ\u0342 Ι\u0313 Ι\u0314"⟩,
    ⟨0x1F3A, "Ἰ\u0300 Ἱ\u0300 Ἰ\u0301 Ἱ\u0301 Ἰ\u0342 Ἱ\u0342"⟩,
    ⟨0x1F40, "ο\u0313 ο\u0314 ὀ\u0300 ὁ\u0300 ὀ\u0301 ὁ\u0301"⟩,
    ⟨0x1F48, "Ο\u0313 Ο\u0314 Ὀ\u0300 Ὁ\u0300 Ὀ\u0301 Ὁ\u0301"⟩,
    ⟨0x1F50, "υ\u0313 υ\u0314 ὐ\u0300 ὑ\u0300 ὐ\u0301 ὑ\u0301 ὐ\u0342 ὑ\u0342"⟩,
    ⟨0x1F59, "Υ\u0314"⟩, ⟨0x1F5B, "Ὑ\u0300"⟩, ⟨0x1F5D, "Ὑ\u0301"⟩, ⟨0x1F5F, "Ὑ\u0342"⟩,
    ⟨0x1F60, "ω\u0313 ω\u0314 ὠ\u0300 ὡ\u0300 ὠ\u0301 ὡ\u0301 ὠ\u0342 ὡ\u0342 Ω\u0313 Ω\u0314"⟩,
    ⟨0x1F6A, "Ὠ\u0300 Ὡ\u0300 Ὠ\u0301 Ὡ\u0301 Ὠ\u0342 Ὡ\u0342"⟩,
    ⟨0x1F70, "α\u0300 ά ε\u0300 έ η\u0300 ή ι\u0300 ί ο\u0300 ό υ\u0300 ύ ω\u0300 ώ"⟩,
    ⟨0x1F80, "ἀ\u0345 ἁ\u0345 ἂ\u0345 ἃ\u0345 ἄ\u0345 ἅ\u0345 ἆ\u0345 ἇ\u0345 Ἀ\u0345 Ἁ\u0345"⟩,
    ⟨0x1F8A, "Ἂ\u0345 Ἃ\u0345 Ἄ\u0345 Ἅ\u0345 Ἆ\u0345 Ἇ\u0345"⟩,
    ⟨0x1F90, "ἠ\u0345 ἡ\u0345 ἢ\u0345 ἣ\u0345 ἤ\u0345 ἥ\u0345 ἦ\u0345 ἧ\u0345 Ἠ\u0345 Ἡ\u0345"⟩,
    ⟨0x1F9A, "Ἢ\u0345 Ἣ\u0345 Ἤ\u0345 Ἥ\u0345 Ἦ\u0345 Ἧ\u0345"⟩,
    ⟨0x1FA0, "ὠ\u0345 ὡ\u0345 ὢ\u0345 ὣ\u0345 ὤ\u0345 ὥ\u0345 ὦ\u0345 ὧ\u0345 Ὠ\u0345 Ὡ\u0345"⟩,
    ⟨0x1FAA, "Ὢ\u0345 Ὣ\u0345 Ὤ\u0345 Ὥ\u0345 Ὦ\u0345 Ὧ\u0345"⟩,
    ⟨0x1FB0, "α\u0306 α\u0304 ὰ\u0345 α\u0345 ά\u0345"⟩,
    ⟨0x1FB6, "α\u0342 ᾶ\u0345 Α\u0306 Α\u0304 Α\u0300 Ά Α\u0345"⟩, ⟨0x1FBE, "ι"⟩,
    ⟨0x1FC1, "¨\u0342 ὴ\u0345 η\u0345 ή\u0345"⟩,
    ⟨0x1FC6, "η\u0342 ῆ\u0345 Ε\u0300 Έ Η\u0300 Ή Η\u0345 ᾿\u0300 ᾿\u0301 ᾿\u0342"⟩,
    ⟨0x1FD0, "ι\u0306 ι\u0304 ϊ\u0300 ΐ"⟩, ⟨0x1FD6, "ι\u0342 ϊ\u0342 Ι\u0306 Ι\u0304 Ι\u0300 Ί"⟩,
    ⟨0x1FDD, "῾\u0300 ῾\u0301 ῾\u0342"⟩,
    ⟨0x1FE0, "υ\u0306 υ\u0304 ϋ\u0300 ΰ ρ\u0313 ρ\u0314 υ\u0342 ϋ\u0342 Υ\u0306 Υ\u0304 Υ\u0300 Ύ"⟩,
    ⟨0x1FEC, "Ρ\u0314 ¨\u0300 ΅ `"⟩, ⟨0x1FF2, "ὼ\u0345 ω\u0345 ώ\u0345"⟩,
    ⟨0x1FF6, "ω\u0342 ῶ\u0345 Ο\u0300 Ό Ω\u0300 Ώ Ω\u0345 ´"⟩, ⟨0x2000, "\u2002 \u2003"⟩,
    ⟨0x2126, "Ω"⟩, ⟨0x212A, "K Å"⟩, ⟨0x219A, "←\u0338 →\u0338"⟩, ⟨0x21AE, "↔\u0338"⟩,
    ⟨0x21CD, "⇐\u0338 ⇔\u0338 ⇒\u0338"⟩, ⟨0x2204, "∃\u0338"⟩, ⟨0x2209, "∈\u0338"⟩,
    ⟨0x220C, "∋\u0338"⟩, ⟨0x2224, "∣\u0338"⟩, ⟨0x2226, "∥\u0338"⟩, ⟨0x2241, "∼\u0338"⟩,
    ⟨0x2244, "≃\u0338"⟩, ⟨0x2247, "≅\u0338"⟩, ⟨0x2249, "≈\u0338"⟩, ⟨0x2260, "=\u0338"⟩,
    ⟨0x2262, "≡\u0338"⟩, ⟨0x226D, "≍\u0338 <\u0338 >\u0338"⟩, ⟨0x2270, "≤\u0338 ≥\u0338"⟩,
    ⟨0x2274, "≲\u0338 ≳\u0338"⟩, ⟨0x2278, "≶\u0338 ≷\u0338"⟩, ⟨0x2280, "≺\u0338 ≻\u0338"⟩,
    ⟨0x2284, "⊂\u0338 ⊃\u0338"⟩, ⟨0x2288, "⊆\u0338 ⊇\u0338"⟩,
    ⟨0x22AC, "⊢\u0338 ⊨\u0338 ⊩\u0338 ⊫\u0338"⟩, ⟨0x22E0, "≼\u0338 ≽\u0338 ⊑\u0338 ⊒\u0338"⟩,
    ⟨0x22EA, "⊲\u0338 ⊳\u0338 ⊴\u0338 ⊵\u0338"⟩, ⟨0x2329, "〈 〉"⟩, ⟨0x2ADC, "⫝\u0338"⟩,
    ⟨0x304C, "か\u3099"⟩, ⟨0x304E, "き\u3099"⟩, ⟨0x3050, "く\u3099"⟩, ⟨0x3052, "け\u3099"⟩,
    ⟨0x3054, "こ\u3099"⟩, ⟨0x3056, "さ\u3099"⟩, ⟨0x3058, "し\u3099"⟩, ⟨0x305A, "す\u3099"⟩,
    ⟨0x305C, "せ\u3099"⟩, ⟨0x305E, "そ\u3099"⟩, ⟨0x3060, "た\u3099"⟩, ⟨0x3062, "ち\u3099"⟩,
    ⟨0x3065, "つ\u3099"⟩, ⟨0x3067, "て\u3099"⟩, ⟨0x3069, "と\u3099"⟩, ⟨0x3070, "は\u3099 は\u309a"⟩,
    ⟨0x3073, "ひ\u3099 ひ\u309a"⟩, ⟨0x3076, "ふ\u3099 ふ\u309a"⟩, ⟨0x3079, "へ\u3099 へ\u309a"⟩,
    ⟨0x307C, "ほ\u3099 ほ\u309a"⟩, ⟨0x3094, "う\u3099"⟩, ⟨0x309E, "ゝ\u3099"⟩, ⟨0x30AC, "カ\u3099"⟩,
    ⟨0x30AE, "キ\u3099"⟩, ⟨0x30B0, "ク\u3099"⟩, ⟨0x30B2, "ケ\u3099"⟩, ⟨0x30B4, "コ\u3099"⟩,
    ⟨0x30B6, "サ\u3099"⟩, ⟨0x30B8, "シ\u3099"⟩, ⟨0x30BA, "ス\u3099"⟩, ⟨0x30BC, "セ\u3099"⟩,
    ⟨0x30BE, "ソ\u3099"⟩, ⟨0x30C0, "タ\u3099"⟩, ⟨0x30C2, "チ\u3099"⟩, ⟨0x30C5, "ツ\u3099"⟩,
    ⟨0x30C7, "テ\u3099"⟩, ⟨0x30C9, "ト\u3099"⟩, ⟨0x30D0, "ハ\u3099 ハ\u309a"⟩,
    ⟨0x30D3, "ヒ\u3099 ヒ\u309a"⟩, ⟨0x30D6, "フ\u3099 フ\u309a"⟩, ⟨0x30D9, "ヘ\u3099 ヘ\u309a"⟩,
    ⟨0x30DC, "ホ\u3099 ホ\u309a"⟩, ⟨0x30F4, "ウ\u3099"⟩, ⟨0x30F7, "ワ\u3099 ヰ\u3099 ヱ\u3099 ヲ\u3099"⟩,
    ⟨0x30FE, "ヽ\u3099"⟩, ⟨0xF900, "豈 更 車 賈 滑 串 句 龜 龜 契 金 喇 奈 懶 癩 羅"⟩,
    ⟨0xF910, "蘿 螺 裸 邏 樂 洛 烙 珞 落 酪 駱 亂 卵 欄 爛 蘭"⟩, ⟨0xF920, "鸞 嵐 濫 藍 襤 拉 臘 蠟 廊 朗 浪 狼 郎 來 冷 勞"⟩,
    ⟨0xF930, "擄 櫓 爐 盧 老 蘆 虜 路 露 魯 鷺 碌 祿 綠 菉 錄"⟩, ⟨0xF940, "鹿 論 壟 弄 籠 聾 牢 磊 賂 雷 壘 屢 樓 淚 漏 累"⟩,
    ⟨0xF950, "縷 陋 勒 肋 凜 凌 稜 綾 菱 陵 讀 拏 樂 諾 丹 寧"⟩, ⟨0xF960, "怒 率 異 北 磻 便 復 不 泌 數 索 參 塞 省 葉 說"⟩,
    ⟨0xF970, "殺 辰 沈 拾 若 掠 略 亮 兩 凉 梁 糧 良 諒 量 勵"⟩, ⟨0xF980, "呂 女 廬 旅 濾 礪 閭 驪 麗 黎 力 曆 歷 轢 年 憐"⟩,
    ⟨0xF990, "戀 撚 漣 煉 璉 秊 練 聯 輦 蓮 連 鍊 列 劣 咽 烈"⟩, ⟨0xF9A0, "裂 說 廉 念 捻 殮 簾 獵 令 囹 寧 嶺 怜 玲 瑩 羚"⟩,
    ⟨0xF9B0, "聆 鈴 零 靈 領 例 禮 醴 隸 惡 了 僚 寮 尿 料 樂"⟩, ⟨0xF9C0, "燎 療 蓼 遼 龍 暈 阮 劉 杻 柳 流 溜 琉 留 硫 紐"⟩,
    ⟨0xF9D0, "類 六 戮 陸 倫 崙 淪 輪 律 慄 栗 率 隆 利 吏 履"⟩, ⟨0xF9E0, "易 李 梨 泥 理 痢 罹 裏 裡 里 離 匿 溺 吝 燐 璘"⟩,
    ⟨0xF9F0, "藺 隣 鱗 麟 林 淋 臨 立 笠 粒 狀 炙 識 什 茶 刺"⟩, ⟨0xFA00, "切 度 拓 糖 宅 洞 暴 輻 行 降 見 廓 兀 嗀"⟩,
    ⟨0xFA10, "塚"⟩, ⟨0xFA12, "晴"⟩, ⟨0xFA15, "凞 猪 益 礼 神 祥 福 靖 精 羽"⟩, ⟨0xFA20, "蘒"⟩, ⟨0xFA22, "諸"⟩,
    ⟨0xFA25, "逸 都"⟩, ⟨0xFA2A, "飯 飼 館 鶴 郞 隷"⟩, ⟨0xFA30, "侮 僧 免 勉 勤 卑 喝 嘆 器 塀 墨 層 屮 悔 慨 憎"⟩,
    ⟨0xFA40, "懲 敏 既 暑 梅 海 渚 漢 煮 爫 琢 碑 社 祉 祈 祐"⟩, ⟨0xFA50, "祖 祝 禍 禎 穀 突 節 練 縉 繁 署 者 臭 艹 艹 著"⟩,
    ⟨0xFA60, "褐 視 謁 謹 賓 贈 辶 逸 難 響 頻 恵 𤋮 舘"⟩, ⟨0xFA70, "並 况 全 侀 充 冀 勇 勺 喝 啕 喙 嗢 塚 墳 奄 奔"⟩,
    ⟨0xFA80, "婢 嬨 廒 廙 彩 徭 惘 慎 愈 憎 慠 懲 戴 揄 搜 摒"⟩, ⟨0xFA90, "敖 晴 朗 望 杖 歹 殺 流 滛 滋 漢 瀞 煮 瞧 爵 犯"⟩,
    ⟨0xFAA0, "猪 瑱 甆 画 瘝 瘟 益 盛 直 睊 着 磌 窱 節 类 絛"⟩, ⟨0xFAB0, "練 缾 者 荒 華 蝹 襁 覆 視 調 諸 請 謁 諾 諭 謹"⟩,
    ⟨0xFAC0, "變 贈 輸 遲 醙 鉶 陼 難 靖 韛 響 頋 頻 鬒 龜 𢡊"⟩, ⟨0xFAD0, "𢡄 𣏕 㮝 䀘 䀹 𥉉 𥳐 𧻓 齃 龎"⟩,
    ⟨0xFB1D, "\u05d9\u05b4"⟩, ⟨0xFB1F, "\u05f2\u05b7"⟩,
    ⟨0xFB2A, "\u05e9\u05c1 \u05e9\u05c2 \ufb49\u05c1 \ufb49\u05c2 \u05d0\u05b7 \u05d0\u05b8"⟩,
    ⟨0xFB30, "\u05d0\u05bc \u05d1\u05bc \u05d2\u05bc \u05d3\u05bc \u05d4\u05bc \u05d5\u05bc"⟩,
    ⟨0xFB36, "\u05d6\u05bc"⟩,
    ⟨0xFB38, "\u05d8\u05bc \u05d9\u05bc \u05da\u05bc \u05db\u05bc \u05dc\u05bc"⟩,
    ⟨0xFB3E, "\u05de\u05bc"⟩, ⟨0xFB40, "\u05e0\u05bc \u05e1\u05bc"⟩,
    ⟨0xFB43, "\u05e3\u05bc \u05e4\u05bc"⟩,
    ⟨0xFB46, "\u05e6\u05bc \u05e7\u05bc \u05e8\u05bc \u05e9\u05bc \u05ea\u05bc \u05d5\u05b9"⟩,
    ⟨0xFB4C, "\u05d1\u05bf \u05db\u05bf \u05e4\u05bf"⟩, ⟨0x105C9, "𐗒\u0307"⟩, ⟨0x105E4, "𐗚\u0307"⟩,
    ⟨0x1109A, "𑂚"⟩, ⟨0x1109C, "𑂜"⟩, ⟨0x110AB, "𑂫"⟩, ⟨0x1112E, "𑄮 𑄯"⟩, ⟨0x1134B, "𑍋 𑍌"⟩,
    ⟨0x11383, "𑎃"⟩, ⟨0x11385, "𑎅"⟩, ⟨0x1138E, "𑎎"⟩, ⟨0x11391, "𑎑"⟩, ⟨0x113C5, "𑏅"⟩,
    ⟨0x113C7, "𑏇 𑏈"⟩, ⟨0x114BB, "𑒻 𑒼"⟩, ⟨0x114BE, "𑒾"⟩, ⟨0x115BA, "𑖺 𑖻"⟩, ⟨0x11938, "𑤸"⟩,
    ⟨0x16121, "𖄡 𖄢 𖄣 𖄤 𖄥 𖄦 𖄧 𖄨"⟩, ⟨0x16D68, "𖵨 𖵩 𖵪"⟩, ⟨0x1D15E, "𝅗𝅥 𝅘𝅥"⟩,
    ⟨0x1D160, "𝅘𝅥𝅮 𝅘𝅥𝅯 𝅘𝅥𝅰 𝅘𝅥𝅱 𝅘𝅥𝅲"⟩, ⟨0x1D1BB, "𝆹𝅥 𝆺𝅥 𝆹𝅥𝅮 𝆺𝅥𝅮 𝆹𝅥𝅯"⟩, ⟨0x1D1C0, "𝆺𝅥𝅯"⟩,
    ⟨0x2F800, "丽 丸 乁 𠄢 你 侮 侻 倂 偺 備 僧 像 㒞 𠘺 免 兔"⟩, ⟨0x2F810, "兤 具 𠔜 㒹 內 再 𠕋 冗 冤 仌 冬 况 𩇟 凵 刃 㓟"⟩,
    ⟨0x2F820, "刻 剆 割 剷 㔕 勇 勉 勤 勺 包 匆 北 卉 卑 博 即"⟩, ⟨0x2F830, "卽 卿 卿 卿 𠨬 灰 及 叟 𠭣 叫 叱 吆 咞 吸 呈 周"⟩,
    ⟨0x2F840, "咢 哶 唐 啓 啣 善 善 喙 喫 喳 嗂 圖 嘆 圗 噑 噴"⟩, ⟨0x2F850, "切 壮 城 埴 堍 型 堲 報 墬 𡓤 売 壷 夆 多 夢 奢"⟩,
    ⟨0x2F860, "𡚨 𡛪 姬 娛 娧 姘 婦 㛮 㛼 嬈 嬾 嬾 𡧈 寃 寘 寧"⟩, ⟨0x2F870, "寳 𡬘 寿 将 当 尢 㞁 屠 屮 峀 岍 𡷤 嵃 𡷦 嵮 嵫"⟩,
    ⟨0x2F880, "嵼 巡 巢 㠯 巽 帨 帽 幩 㡢 𢆃 㡼 庰 庳 庶 廊 𪎒"⟩, ⟨0x2F890, "廾 𢌱 𢌱 舁 弢 弢 㣇 𣊸 𦇚 形 彫 㣣 徚 忍 志 忹"⟩,
    ⟨0x2F8A0, "悁 㤺 㤜 悔 𢛔 惇 慈 慌 慎 慌 慺 憎 憲 憤 憯 懞"⟩, ⟨0x2F8B0, "懲 懶 成 戛 扝 抱 拔 捐 𢬌 挽 拼 捨 掃 揤 𢯱 搢"⟩,
    ⟨0x2F8C0, "揅 掩 㨮 摩 摾 撝 摷 㩬 敏 敬 𣀊 旣 書 晉 㬙 暑"⟩, ⟨0x2F8D0, "㬈 㫤 冒 冕 最 暜 肭 䏙 朗 望 朡 杞 杓 𣏃 㭉 柺"⟩,
    ⟨0x2F8E0, "枅 桒 梅 𣑭 梎 栟 椔 㮝 楂 榣 槪 檨 𣚣 櫛 㰘 次"⟩, ⟨0x2F8F0, "𣢧 歔 㱎 歲 殟 殺 殻 𣪍 𡴋 𣫺 汎 𣲼 沿 泍 汧 洖"⟩,
    ⟨0x2F900, "派 海 流 浩 浸 涅 𣴞 洴 港 湮 㴳 滋 滇 𣻑 淹 潮"⟩, ⟨0x2F910, "𣽞 𣾎 濆 瀹 瀞 瀛 㶖 灊 災 灷 炭 𠔥 煅 𤉣 熜 𤎫"⟩,
    ⟨0x2F920, "爨 爵 牐 𤘈 犀 犕 𤜵 𤠔 獺 王 㺬 玥 㺸 㺸 瑇 瑜"⟩, ⟨0x2F930, "瑱 璅 瓊 㼛 甤 𤰶 甾 𤲒 異 𢆟 瘐 𤾡 𤾸 𥁄 㿼 䀈"⟩,
    ⟨0x2F940, "直 𥃳 𥃲 𥄙 𥄳 眞 真 真 睊 䀹 瞋 䁆 䂖 𥐝 硎 碌"⟩, ⟨0x2F950, "磌 䃣 𥘦 祖 𥚚 𥛅 福 秫 䄯 穀 穊 穏 𥥼 𥪧 𥪧 竮"⟩,
    ⟨0x2F960, "䈂 𥮫 篆 築 䈧 𥲀 糒 䊠 糨 糣 紀 𥾆 絣 䌁 緇 縂"⟩, ⟨0x2F970, "繅 䌴 𦈨 𦉇 䍙 𦋙 罺 𦌾 羕 翺 者 𦓚 𦔣 聠 𦖨 聰"⟩,
    ⟨0x2F980, "𣍟 䏕 育 脃 䐋 脾 媵 𦞧 𦞵 𣎓 𣎜 舁 舄 辞 䑫 芑"⟩, ⟨0x2F990, "芋 芝 劳 花 芳 芽 苦 𦬼 若 茝 荣 莭 茣 莽 菧 著"⟩,
    ⟨0x2F9A0, "荓 菊 菌 菜 𦰶 𦵫 𦳕 䔫 蓱 蓳 蔖 𧏊 蕤 𦼬 䕝 䕡"⟩, ⟨0x2F9B0, "𦾱 𧃒 䕫 虐 虜 虧 虩 蚩 蚈 蜎 蛢 蝹 蜨 蝫 螆 䗗"⟩,
    ⟨0x2F9C0, "蟡 蠁 䗹 衠 衣 𧙧 裗 裞 䘵 裺 㒻 𧢮 𧥦 䚾 䛇 誠"⟩, ⟨0x2F9D0, "諭 變 豕 𧲨 貫 賁 贛 起 𧼯 𠠄 跋 趼 跰 𠣞 軔 輸"⟩,
    ⟨0x2F9E0, "𨗒 𨗭 邔 郱 鄑 𨜮 鄛 鈸 鋗 鋘 鉼 鏹 鐕 𨯺 開 䦕"⟩, ⟨0x2F9F0, "閷 𨵷 䧦 雃 嶲 霣 𩅅 𩈚 䩮 䩶 韠 𩐊 䪲 𩒖 頋 頋"⟩,
    ⟨0x2FA00, "頩 𩖶 飢 䬳 餩 馧 駂 駾 䯎 𩬰 鬒 鱀 鳽 䳎 䳭 鵧"⟩, ⟨0x2FA10, "𪃎 䳸 𪄅 𪈎 𪊑 麻 䵖 黹 黾 鼅 鼏 鼖 鼻 𪘀"⟩]

/-- The code points with two parts that do not become them again. -/
def uncomposedRanges : List (Nat × Nat) :=
  [(0x344, 0x344), (0x958, 0x95F), (0x9DC, 0x9DD), (0x9DF, 0x9DF), (0xA33, 0xA33), (0xA36, 0xA36),
    (0xA59, 0xA5B), (0xA5E, 0xA5E), (0xB5C, 0xB5D), (0xF43, 0xF43), (0xF4D, 0xF4D), (0xF52, 0xF52),
    (0xF57, 0xF57), (0xF5C, 0xF5C), (0xF69, 0xF69), (0xF73, 0xF73), (0xF75, 0xF76), (0xF78, 0xF78),
    (0xF81, 0xF81), (0xF93, 0xF93), (0xF9D, 0xF9D), (0xFA2, 0xFA2), (0xFA7, 0xFA7), (0xFAC, 0xFAC),
    (0xFB9, 0xFB9), (0x2ADC, 0x2ADC), (0xFB1D, 0xFB1D), (0xFB1F, 0xFB1F), (0xFB2A, 0xFB36),
    (0xFB38, 0xFB3C), (0xFB3E, 0xFB3E), (0xFB40, 0xFB41), (0xFB43, 0xFB44), (0xFB46, 0xFB4E),
    (0x1D15E, 0x1D164), (0x1D1BB, 0x1D1C0)]

end SketchPreview.Text
