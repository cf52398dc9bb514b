import ChainArchive.Text.DoubleByte
import ChainArchive.Text.Table.Big5
import ChainArchive.Text.Table.Gb18030

namespace ChainArchive.Text.Chinese

/-! Chinese text: an encoding of two and four bytes for all characters, and one of two
bytes for the traditional ones. -/

def privatePair? (a b : UInt8) : Option Char :=
  let lead := a.toNat
  if isBetween 0xAA 0xAF a && isBetween 0xA1 0xFE b then
    some (Char.ofNat (0xE000 + (lead - 0xAA) * 94 + (b.toNat - 0xA1)))
  else if isBetween 0xF8 0xFE a && isBetween 0xA1 0xFE b then
    some (Char.ofNat (0xE234 + (lead - 0xF8) * 94 + (b.toNat - 0xA1)))
  else if isBetween 0xA1 0xA7 a && isBetween 0x40 0x7E b then
    some (Char.ofNat (0xE4C6 + (lead - 0xA1) * 96 + (b.toNat - 0x40)))
  else if isBetween 0xA1 0xA7 a && isBetween 0x80 0xA0 b then
    some (Char.ofNat (0xE4C6 + (lead - 0xA1) * 96 + (b.toNat - 0x41)))
  else none

def isIdeographicBlank (a b : UInt8) : Bool := a == 0xA3 && b == 0xA0

def column? (b : UInt8) : Option Nat :=
  if isBetween 0x40 0x7E b then some (b.toNat - 0x40)
  else if isBetween 0x80 0xFE b then some (b.toNat - 0x41)
  else none

def tablePair? (a b : UInt8) : Option Char :=
  if a < 0xA1 then (column? b).bind (cell? Gb18030.front (a.toNat - 0x81))
  else if 0xA1 ≤ b then cell? Gb18030.plane (a.toNat - 0xA1) (b.toNat - 0xA1)
  else if 0xA8 ≤ a then (column? b).bind (cell? Gb18030.back (a.toNat - 0xA8))
  else none

def pair? (a b : UInt8) : Option Char :=
  if isIdeographicBlank a b then some '\u3000'
  else (privatePair? a b) <|> (tablePair? a b)

/-- The characters of four bytes in order, without those that two bytes stand for. -/
def fourByteSpans : List Span := spans
  "0-23:80 24-25:a5 26-2c:a9 2d-31:b2 32-50:b8 51-58:d8 59-5e:e2 5f:eb 60-63:ee 64-66:f4
67:f8 68:fb 69-6c:fd 6d-7d:102 7e-84:114 85-93:11c 94-ab:12c ac-ae:145 af-b2:149
b3-cf:14e d0-131:16c 132:1cf 133:1d1 134:1d3 135:1d5 136:1d7 137:1d9 138:1db 139-154:1dd
155-1ab:1fa 1ac-1ba:252 1bb-21f:262 220:2c8 221-22d:2cc 22e-2e4:2da 2e5:3a2 2e6-2ec:3aa
2ed:3c2 2ee-324:3ca 325-332:402 333:450 334-1ef1:452 1ef2-1ef3:2011 1ef4:2017
1ef5-1ef6:201a 1ef7-1efd:201e 1efe-1f06:2027 1f07:2031 1f08:2034 1f09-1f0d:2036
1f0e-1f7d:203c 1f7e-1fd3:20ad 1fd4:2104 1fd5-1fd7:2106 1fd8-1fe3:210a 1fe4-1fed:2117
1fee-202b:2122 202c-202f:216c 2030-2045:217a 2046-2047:2194 2048-20b5:219a
20b6-20bb:2209 20bc:2210 20bd-20bf:2212 20c0-20c3:2216 20c4-20c5:221b 20c6-20c7:2221
20c8:2224 20c9:2226 20ca-20cb:222c 20cc-20d0:222f 20d1-20d5:2238 20d6-20df:223e
20e0-20e2:2249 20e3-20e7:224d 20e8-20f4:2253 20f5-20f6:2262 20f7-20fc:2268
20fd-2121:2270 2122-2124:2296 2125-212f:229a 2130-2148:22a6 2149-219a:22c0
219b-22e7:2313 22e8-22f1:246a 22f2-2355:249c 2356-2359:254c 235a-2366:2574
2367-2369:2590 236a-2373:2596 2374-2383:25a2 2384-238b:25b4 238c-2393:25be
2394-2396:25c8 2397-2398:25cc 2399-23aa:25d0 23ab-23c9:25e6 23ca-23cb:2607
23cc-2401:260a 2402:2641 2403-2c40:2643 2c41-2c42:2e82 2c43-2c45:2e85 2c46-2c47:2e89
2c48-2c51:2e8d 2c52-2c60:2e98 2c61-2c62:2ea8 2c63-2c65:2eab 2c66-2c69:2eaf
2c6a-2c6b:2eb4 2c6c-2c6e:2eb8 2c6f-2c7c:2ebc 2c7d-2da1:2ecb 2da2-2da5:2ffc 2da6:3004
2da7-2dab:3018 2dac-2dad:301f 2dae-2dc1:302a 2dc2-2dc3:303f 2dc4-2dca:3094
2dcb-2dcc:309f 2dcd-2dd1:30f7 2dd2-2dd7:30ff 2dd8-2ecd:312a 2ece-2ed4:322a
2ed5-2f45:3232 2f46-302f:32a4 3030-303b:3390 303c-303d:339f 303e-305f:33a2
3060-3068:33c5 3069-306a:33cf 306b-306c:33d3 306d-30dd:33d6 30de-3108:3448
3109-3232:3474 3233-32a1:359f 32a2-32ac:360f 32ad-35a9:361b 35aa-35fe:3919
35ff-365e:396f 365f-366c:39d1 366d-36ff:39e0 3700-37d9:3a74 37da-38f8:3b4f
38f9-3969:3c6f 396a-3cde:3ce1 3cdf-3de6:4057 3de7-3fbd:4160 3fbe-4031:4338
4032-4035:43ad 4036-4060:43b2 4061-4158:43de 4159-42cd:44d7 42ce-42e1:464d
42e2-43a2:4662 43a3-43a7:4724 43a8-43f9:472a 43fa-4409:477d 440a-45c2:478e
45c3-45f4:4948 45f5-45f6:497b 45f7-45fa:497e 45fb:4984 45fc-460f:4987 4610-4612:499c
4613-4628:49a0 4629-48e7:49b8 48e8-490e:4c78 490f-497d:4ca4 497e-4a11:4d1a
4a12-4a62:4daf 4a63-82bc:9fa6 82bd:e76c 82be:e7c8 82bf-82cb:e7e7 82cc:e815
82cd-82d1:e819 82d2-82d8:e81f 82d9-82dc:e827 82dd-82e0:e82d 82e1-82e8:e833
82e9-82ef:e83c 82f0-82ff:e844 8300-830d:e856 830e-93d4:e865 93d5-9420:f92d
9421-943b:f97a 943c-948c:f996 948d-9495:f9e8 9496-94af:f9f2 94b0:fa10 94b1:fa12
94b2-94b4:fa15 94b5-94ba:fa19 94bb:fa22 94bc-94bd:fa25 94be-98c3:fa2a 98c4:fe32
98c5-98c8:fe45 98c9:fe53 98ca:fe58 98cb:fe67 98cc-9960:fe6c 9961-99e1:ff5f
99e2-99fb:ffe6"

def privateIndex : Nat := 7457

def supplementaryIndex : Nat := 189000

def fourBytes? (index : Nat) : Option Char :=
  if index = privateIndex then some '\uE7C7'
  else if supplementaryIndex ≤ index then
    let n := 0x10000 + (index - supplementaryIndex)
    if n < 0x110000 then some (Char.ofNat n) else none
  else
    (fourByteSpans.find? (·.holds index)).map fun span =>
      Char.ofNat (span.value + (index - span.first))

def isLead (b : UInt8) : Bool := isBetween 0x81 0xFE b

def isDigitByte (b : UInt8) : Bool := isBetween 0x30 0x39 b

def fourByteIndex (a b c d : UInt8) : Nat :=
  (((a.toNat - 0x81) * 10 + (b.toNat - 0x30)) * 126 + (c.toNat - 0x81)) * 10 +
    (d.toNat - 0x30)

def single (b : UInt8) : Char :=
  if b == 0x80 then '€' else (ascii? b).getD '\uFFFD'

def decodeGb : Bytes → List Char
  | [] => []
  | [a] => [if isLead a then '\uFFFD' else single a]
  | [a, b] =>
      if !isLead a then single a :: decodeGb [b]
      else if isDigitByte b then ['\uFFFD']
      else
        match pair? a b with
        | some character => [character]
        | none => if b < 128 then '\uFFFD' :: decodeGb [b] else ['\uFFFD']
  | [a, b, c] =>
      if !isLead a then single a :: decodeGb [b, c]
      else if isDigitByte b then
        if isLead c then ['\uFFFD'] else '\uFFFD' :: decodeGb [b, c]
      else
        match pair? a b with
        | some character => character :: decodeGb [c]
        | none =>
            if b < 128 then '\uFFFD' :: decodeGb [b, c] else '\uFFFD' :: decodeGb [c]
  | a :: b :: c :: d :: rest =>
      if !isLead a then single a :: decodeGb (b :: c :: d :: rest)
      else if isDigitByte b then
        if isLead c && isDigitByte d then
          (fourBytes? (fourByteIndex a b c d)).getD '\uFFFD' :: decodeGb rest
        else '\uFFFD' :: decodeGb (b :: c :: d :: rest)
      else
        match pair? a b with
        | some character => character :: decodeGb (c :: d :: rest)
        | none =>
            if b < 128 then '\uFFFD' :: decodeGb (b :: c :: d :: rest)
            else '\uFFFD' :: decodeGb (c :: d :: rest)

/-! The traditional characters. -/

def markedLetter? (a b : UInt8) : Option (List Char) :=
  if a == 0x88 then
    if b == 0x62 then some ['Ê', '\u0304']
    else if b == 0x64 then some ['Ê', '\u030C']
    else if b == 0xA3 then some ['ê', '\u0304']
    else if b == 0xA5 then some ['ê', '\u030C']
    else none
  else none

def traditionalColumn? (b : UInt8) : Option Nat :=
  if isBetween 0x40 0x7E b then some (b.toNat - 0x40)
  else if isBetween 0xA1 0xFE b then some (b.toNat - 0x62)
  else none

def traditionalPair? (a b : UInt8) : Option (List Char) :=
  match markedLetter? a b with
  | some characters => some characters
  | none =>
      if 0x87 ≤ a then
        ((traditionalColumn? b).bind (cell? Big5.rows (a.toNat - 0x87))).map ([·])
      else none

def big5 : DoubleByte where
  single := ascii?
  isLead := isLead
  pair := traditionalPair?

end ChainArchive.Text.Chinese
