import Conform.Text.Word

/-!
# Letters

A letter is a word character that is neither numeric nor the low line.
-/

namespace Conform.Text

/-- The numeric characters beyond ASCII that are no letters. -/
def numericText : String :=
  "b2-b3 b9 bc-be 660-669 6f0-6f9 7c0-7c9 966-96f 9e6-9ef 9f4-9f9 a66-a6f ae6-aef b66-b6f
   b72-b77 be6-bf2 c66-c6f c78-c7e ce6-cef d58-d5e d66-d78 de6-def e50-e59 ed0-ed9 f20-f33
   1040-1049 1090-1099 1369-137c 16ee-16f0 17e0-17e9 17f0-17f9 1810-1819 1946-194f 19d0-19da
   1a80-1a89 1a90-1a99 1b50-1b59 1bb0-1bb9 1c40-1c49 1c50-1c59 2070 2074-2079 2080-2089
   2150-2182 2185-2189 2460-249b 24ea-24ff 2776-2793 2cfd 3007 3021-3029 3038-303a 3192-3195
   3220-3229 3248-324f 3251-325f 3280-3289 32b1-32bf a620-a629 a6e6-a6ef a830-a835 a8d0-a8d9
   a900-a909 a9d0-a9d9 a9f0-a9f9 aa50-aa59 abf0-abf9 ff10-ff19 10107-10133 10140-10178
   1018a-1018b 102e1-102fb 10320-10323 10341 1034a 103d1-103d5 104a0-104a9 10858-1085f
   10879-1087f 108a7-108af 108fb-108ff 10916-1091b 109bc-109bd 109c0-109cf 109d2-109ff
   10a40-10a48 10a7d-10a7e 10a9d-10a9f 10aeb-10aef 10b58-10b5f 10b78-10b7f 10ba9-10baf
   10cfa-10cff 10d30-10d39 10e60-10e7e 10f1d-10f26 10f51-10f54 10fc5-10fcb 11052-1106f
   110f0-110f9 11136-1113f 111d0-111d9 111e1-111f4 112f0-112f9 11450-11459 114d0-114d9
   11650-11659 116c0-116c9 11730-1173b 118e0-118f2 11950-11959 11c50-11c6c 11d50-11d59
   11da0-11da9 11fc0-11fd4 12400-1246e 16a60-16a69 16ac0-16ac9 16b50-16b59 16b5b-16b61
   16e80-16e96 1d2e0-1d2f3 1d360-1d378 1d7ce-1d7ff 1e140-1e149 1e2f0-1e2f9 1e8c7-1e8cf
   1e950-1e959 1ec71-1ecab 1ecad-1ecaf 1ecb1-1ecb4 1ed01-1ed2d 1ed2f-1ed3d 1f100-1f10c
   1fbf0-1fbf9"

/-- `numericText` as ranges. -/
def numeric : Ranges := Ranges.ofText numericText

/-- Is the character a letter? -/
def isLetter (c : Char) : Bool :=
  if c.toNat < 0x80 then isAsciiLetter c else isWordChar c && !numeric.has c.toNat

end Conform.Text
