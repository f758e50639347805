/-!
Decimal digits of every script. A placeholder number in a statement ends where these end, although
only the ten ASCII digits are read as a number.
-/

namespace CardSearch.Text

/-- Where the blocks of ten decimal digits begin (Unicode 16, general category Nd). -/
def digitBlocks : List Nat :=
  [0x0030, 0x0660, 0x06F0, 0x07C0, 0x0966, 0x09E6, 0x0A66, 0x0AE6, 0x0B66, 0x0BE6, 0x0C66, 0x0CE6,
   0x0D66, 0x0DE6, 0x0E50, 0x0ED0, 0x0F20, 0x1040, 0x1090, 0x17E0, 0x1810, 0x1946, 0x19D0, 0x1A80,
   0x1A90, 0x1B50, 0x1BB0, 0x1C40, 0x1C50, 0xA620, 0xA8D0, 0xA900, 0xA9D0, 0xA9F0, 0xAA50, 0xABF0,
   0xFF10, 0x104A0, 0x10D30, 0x10D40, 0x11066, 0x110F0, 0x11136, 0x111D0, 0x112F0, 0x11450, 0x114D0,
   0x11650, 0x116C0, 0x116D0, 0x116DA, 0x11730, 0x118E0, 0x11950, 0x11BF0, 0x11C50, 0x11D50,
   0x11DA0, 0x11F50, 0x16130, 0x16A60, 0x16AC0, 0x16B50, 0x16D70, 0x1CCF0, 0x1D7CE, 0x1D7D8,
   0x1D7E2, 0x1D7EC, 0x1D7F6, 0x1E140, 0x1E2F0, 0x1E4F0, 0x1E5F1, 0x1E950, 0x1FBF0]

def isDecimalDigit (character : Char) : Bool :=
  digitBlocks.any fun first => first ≤ character.toNat && character.toNat < first + 10

theorem isDecimalDigit_of_isDigit (character : Char) (digit : character.isDigit = true) :
    isDecimalDigit character = true := by
  have bounds : 0x30 ≤ character.toNat ∧ character.toNat < 0x30 + 10 := by
    simp only [Char.isDigit, Bool.and_eq_true, decide_eq_true_eq] at digit
    have lower := UInt32.le_iff_toNat_le.1 digit.1
    have upper := UInt32.le_iff_toNat_le.1 digit.2
    simp only [Char.toNat] at *
    have : '0'.val.toNat = 48 := rfl
    have : '9'.val.toNat = 57 := rfl
    omega
  simp [isDecimalDigit, digitBlocks, bounds.1, bounds.2]

end CardSearch.Text
