import Introspection.Text.Mark

/-!
# Characters that need a context

The characters that may stand in a part of a host name only in the company of certain others: the
joiners after a virama or between letters that join, a point between two letters l, the signs of
Greek and Hebrew numbers beside a letter of that script, the Katakana point beside kana or Han
characters, and Arabic digits of one kind without the other.
-/

namespace Introspection.Web

/-- Whether a character is in one of some ranges. -/
def isAmong (ranges : List (Nat × Nat)) (c : Char) : Bool :=
  ranges.any fun (first, last) => first ≤ c.toNat && c.toNat ≤ last

/-- The letters that join with the one after them. -/
def joiningOn : List (Nat × Nat) := [
  (0x620, 0x620), (0x626, 0x626), (0x628, 0x628), (0x62A, 0x62E), (0x633, 0x63F), (0x641, 0x647),
  (0x649, 0x64A), (0x66E, 0x66F), (0x679, 0x687), (0x69A, 0x6BF), (0x6C1, 0x6C2), (0x6CC, 0x6CC),
  (0x6CE, 0x6CE), (0x6D0, 0x6D1), (0x6FA, 0x6FC), (0x6FF, 0x6FF), (0x712, 0x714), (0x71A, 0x71D),
  (0x71F, 0x727), (0x729, 0x729), (0x72B, 0x72B), (0x72D, 0x72E), (0x74E, 0x758), (0x75C, 0x76A),
  (0x76D, 0x770), (0x772, 0x772), (0x775, 0x777), (0x77A, 0x77F), (0x7CA, 0x7EA), (0x841, 0x845),
  (0x848, 0x848), (0x84A, 0x853), (0x855, 0x855), (0x860, 0x860), (0x862, 0x865), (0x868, 0x868),
  (0x886, 0x886), (0x889, 0x88D), (0x8A0, 0x8A9), (0x8AF, 0x8B0), (0x8B3, 0x8B8), (0x8BA, 0x8C8),
  (0x1820, 0x1878), (0x1887, 0x18A8), (0x18AA, 0x18AA), (0xA840, 0xA872), (0x10AC0, 0x10AC4),
  (0x10ACD, 0x10ACD), (0x10AD3, 0x10ADC), (0x10ADE, 0x10AE0), (0x10B80, 0x10B80),
  (0x10B82, 0x10B82), (0x10B86, 0x10B88), (0x10B8A, 0x10B8B), (0x10B8D, 0x10B8D),
  (0x10B90, 0x10B90), (0x10D00, 0x10D21), (0x10D23, 0x10D23), (0x10F30, 0x10F32),
  (0x10F34, 0x10F44), (0x10F70, 0x10F73), (0x10F76, 0x10F81), (0x10FB0, 0x10FB0),
  (0x10FB2, 0x10FB3), (0x10FB8, 0x10FB8), (0x10FBB, 0x10FBC), (0x10FBE, 0x10FBF),
  (0x10FC1, 0x10FC1), (0x10FC4, 0x10FC4), (0x1E922, 0x1E943)]

/-- The letters that join with the one before them only. -/
def joiningBack : List (Nat × Nat) := [
  (0x622, 0x625), (0x627, 0x627), (0x629, 0x629), (0x62F, 0x632), (0x648, 0x648), (0x671, 0x673),
  (0x688, 0x699), (0x6C0, 0x6C0), (0x6C3, 0x6CB), (0x6CD, 0x6CD), (0x6CF, 0x6CF), (0x6D2, 0x6D3),
  (0x6D5, 0x6D5), (0x6EE, 0x6EF), (0x710, 0x710), (0x715, 0x719), (0x71E, 0x71E), (0x728, 0x728),
  (0x72A, 0x72A), (0x72C, 0x72C), (0x72F, 0x72F), (0x74D, 0x74D), (0x759, 0x75B), (0x76B, 0x76C),
  (0x771, 0x771), (0x773, 0x774), (0x778, 0x779), (0x840, 0x840), (0x846, 0x847), (0x849, 0x849),
  (0x854, 0x854), (0x856, 0x858), (0x867, 0x867), (0x869, 0x86A), (0x870, 0x882), (0x88E, 0x88E),
  (0x8AA, 0x8AC), (0x8AE, 0x8AE), (0x8B1, 0x8B2), (0x8B9, 0x8B9), (0x10AC5, 0x10AC5),
  (0x10AC7, 0x10AC7), (0x10AC9, 0x10ACA), (0x10ACE, 0x10AD2), (0x10ADD, 0x10ADD),
  (0x10AE1, 0x10AE1), (0x10AE4, 0x10AE4), (0x10B81, 0x10B81), (0x10B83, 0x10B85),
  (0x10B89, 0x10B89), (0x10B8C, 0x10B8C), (0x10B8E, 0x10B8F), (0x10B91, 0x10B91),
  (0x10D22, 0x10D22), (0x10F33, 0x10F33), (0x10F74, 0x10F75), (0x10FB4, 0x10FB6),
  (0x10FB9, 0x10FBA), (0x10FBD, 0x10FBD), (0x10FC2, 0x10FC3)]

/-- The four of the former that join with the one after them only. -/
def joiningOnOnly : List (Nat × Nat) := [
  (0xA872, 0xA872), (0x10ACD, 0x10ACD), (0x10AD7, 0x10AD7), (0x10D00, 0x10D00)]

/-- The letters of Greek. -/
def greekLetters : List (Nat × Nat) := [
  (0x370, 0x373), (0x375, 0x377), (0x37A, 0x37D), (0x37F, 0x37F), (0x384, 0x384), (0x386, 0x386),
  (0x388, 0x38A), (0x38C, 0x38C), (0x38E, 0x3A1), (0x3A3, 0x3E1), (0x3F0, 0x3FF),
  (0x1D26, 0x1D2A), (0x1F00, 0x1F15), (0x1F18, 0x1F1D), (0x1F20, 0x1F45), (0x1F48, 0x1F4D),
  (0x1F50, 0x1F57), (0x1F59, 0x1F59), (0x1F5B, 0x1F5B), (0x1F5D, 0x1F5D), (0x1F5F, 0x1F7D),
  (0x1F80, 0x1FB4), (0x1FB6, 0x1FC4), (0x1FC6, 0x1FD3), (0x1FD6, 0x1FDB), (0x1FDD, 0x1FEF),
  (0x1FF2, 0x1FF4), (0x1FF6, 0x1FFE), (0xAB65, 0xAB65), (0x10140, 0x1018E), (0x101A0, 0x101A0),
  (0x1D200, 0x1D245)]

/-- The letters of Hebrew. -/
def hebrewLetters : List (Nat × Nat) := [(0x591, 0x5C7), (0x5D0, 0x5EA), (0x5EF, 0x5F4)]

/-- The characters of the kana and Han scripts. -/
def eastAsianLetters : List (Nat × Nat) := [
  (0x3041, 0x3096), (0x309D, 0x309F), (0x1B001, 0x1B11F), (0x1B132, 0x1B132), (0x1B150, 0x1B152),
  (0x30A1, 0x30FA), (0x30FD, 0x30FF), (0x31F0, 0x31FF), (0x1AFF0, 0x1AFF3), (0x1AFF5, 0x1AFFB),
  (0x1AFFD, 0x1AFFE), (0x1B000, 0x1B000), (0x1B120, 0x1B122), (0x1B155, 0x1B155),
  (0x1B164, 0x1B167), (0x3005, 0x3005), (0x3007, 0x3007), (0x3021, 0x3029), (0x3038, 0x303B),
  (0x3400, 0x4DBF), (0x4E00, 0x9FFF), (0x16FE2, 0x16FE3), (0x16FF0, 0x16FF1), (0x20000, 0x2A6DF),
  (0x2A700, 0x2B739), (0x2B740, 0x2B81D), (0x2B820, 0x2CEA1), (0x2CEB0, 0x2EBE0),
  (0x2EBF0, 0x2EE5D), (0x30000, 0x3134A), (0x31350, 0x323AF)]

/-- Whether a character is skipped when the letters beside a joiner are looked for. -/
def isTransparent (c : Char) : Bool := Text.isNonspacing c || c == Char.ofNat 0x1E94B

/-- Whether the letter before a joiner joins with what comes after it; the text before is given
last first. -/
def joinsOn (before : List Char) : Bool :=
  ((before.dropWhile isTransparent).head?).any (isAmong joiningOn)

/-- Whether the letter after a joiner joins with what comes before it. -/
def joinsBack (rest : List Char) : Bool :=
  ((rest.dropWhile isTransparent).head?).any fun c =>
    isAmong joiningBack c || (isAmong joiningOn c && !isAmong joiningOnOnly c)

/-- Whether the character before a place is a virama. -/
def isAfterVirama (before : List Char) : Bool :=
  (before.head?).any (Text.combiningClass · == 9)

/-- The Arabic digits of the first kind. -/
def arabicDigits : List (Nat × Nat) := [(0x660, 0x669)]

/-- The Arabic digits of the second kind. -/
def easternDigits : List (Nat × Nat) := [(0x6F0, 0x6F9)]

/-- Whether a character may stand between what comes before it (last first) and after it, if it is
one that needs a context. -/
def isInContext (before : List Char) (c : Char) (rest : List Char) : Bool :=
  match c.toNat with
  | 0x200C => isAfterVirama before || (joinsOn before && joinsBack rest)
  | 0x200D => isAfterVirama before
  | 0xB7 => before.head? == some 'l' && rest.head? == some 'l'
  | 0x375 => (rest.head?).any (isAmong greekLetters)
  | 0x5F3 => (before.head?).any (isAmong hebrewLetters)
  | 0x5F4 => (before.head?).any (isAmong hebrewLetters)
  | 0x30FB => (before ++ rest).any (isAmong eastAsianLetters)
  | _ =>
    (isAmong arabicDigits c && !(before ++ rest).any (isAmong easternDigits)) ||
      (isAmong easternDigits c && !(before ++ rest).any (isAmong arabicDigits))

end Introspection.Web
