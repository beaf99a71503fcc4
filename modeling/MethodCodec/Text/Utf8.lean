/-!
UTF-8 over lists of bytes: writing, strict reading, and reading with repair,
where each stretch of bytes that cannot be continued to a character becomes
one replacement character.
-/

namespace MethodCodec.Utf8

/-- What stands for bytes that are not a character. -/
def replacement : Char := '\ufffd'

/-- The bytes of a character. -/
def encodeChar (c : Char) : List UInt8 :=
  let code := c.toNat
  if code < 0x80 then
    [UInt8.ofNat code]
  else if code < 0x800 then
    [UInt8.ofNat (0xC0 + code / 64), UInt8.ofNat (0x80 + code % 64)]
  else if code < 0x10000 then
    [UInt8.ofNat (0xE0 + code / 4096), UInt8.ofNat (0x80 + code / 64 % 64),
      UInt8.ofNat (0x80 + code % 64)]
  else
    [UInt8.ofNat (0xF0 + code / 262144), UInt8.ofNat (0x80 + code / 4096 % 64),
      UInt8.ofNat (0x80 + code / 64 % 64), UInt8.ofNat (0x80 + code % 64)]

def encode (text : List Char) : List UInt8 :=
  text.flatMap encodeChar

/-- The bytes of a string. -/
def bytes (text : String) : List UInt8 :=
  encode text.toList

/-- Whether a byte can follow the first byte of a character. -/
def isContinuation (byte : UInt8) : Bool :=
  0x80 ≤ byte && byte ≤ 0xBF

/-- Whether `second` can follow the first byte of a three-byte character: no
character has a shorter form, and surrogates are none. -/
def followsThree (first second : UInt8) : Bool :=
  if first = 0xE0 then 0xA0 ≤ second && second ≤ 0xBF
  else if first = 0xED then 0x80 ≤ second && second ≤ 0x9F
  else isContinuation second

/-- Whether `second` can follow the first byte of a four-byte character: no
character has a shorter form or lies past the last code point. -/
def followsFour (first second : UInt8) : Bool :=
  if first = 0xF0 then 0x90 ≤ second && second ≤ 0xBF
  else if first = 0xF4 then 0x80 ≤ second && second ≤ 0x8F
  else isContinuation second

/-- The bits of a byte below its marker, which has `size` values under it. -/
def payloadOf (byte : UInt8) (size : Nat) : Nat :=
  byte.toNat % size

/-- The first character of a byte list, or `none` where bytes have to be
repaired, and the bytes after it. The repaired stretch is as long as bytes can
be the start of one character, and at least one byte. -/
def step (first : UInt8) (rest : List UInt8) : Option Char × List UInt8 :=
  if first < 0x80 then
    (some (Char.ofNat first.toNat), rest)
  else if 0xC2 ≤ first && first ≤ 0xDF then
    match rest with
    | second :: rest₂ =>
        if isContinuation second then
          (some (Char.ofNat (payloadOf first 32 * 64 + payloadOf second 64)), rest₂)
        else
          (none, rest)
    | [] => (none, rest)
  else if 0xE0 ≤ first && first ≤ 0xEF then
    match rest with
    | second :: rest₂ =>
        if followsThree first second then
          match rest₂ with
          | third :: rest₃ =>
              if isContinuation third then
                (some (Char.ofNat (payloadOf first 16 * 4096 + payloadOf second 64 * 64
                  + payloadOf third 64)), rest₃)
              else
                (none, rest₂)
          | [] => (none, rest₂)
        else
          (none, rest)
    | [] => (none, rest)
  else if 0xF0 ≤ first && first ≤ 0xF4 then
    match rest with
    | second :: rest₂ =>
        if followsFour first second then
          match rest₂ with
          | third :: rest₃ =>
              if isContinuation third then
                match rest₃ with
                | fourth :: rest₄ =>
                    if isContinuation fourth then
                      (some (Char.ofNat (payloadOf first 8 * 262144 + payloadOf second 64 * 4096
                        + payloadOf third 64 * 64 + payloadOf fourth 64)), rest₄)
                    else
                      (none, rest₃)
                | [] => (none, rest₃)
              else
                (none, rest₂)
          | [] => (none, rest₂)
        else
          (none, rest)
    | [] => (none, rest)
  else
    (none, rest)

theorem step_length_le (first : UInt8) (rest : List UInt8) :
    (step first rest).2.length ≤ rest.length := by
  unfold step
  repeat' split
  all_goals simp only [List.length_cons]
  all_goals omega

/-- Reads bytes as text, one replacement character for each stretch that has
to be repaired. -/
def decodeLossy : List UInt8 → List Char
  | [] => []
  | first :: rest =>
      (step first rest).1.getD replacement :: decodeLossy (step first rest).2
  termination_by input => input.length
  decreasing_by
    have := step_length_le first rest
    simp only [List.length_cons]
    omega

/-- Reads bytes as text if they are valid throughout. -/
def decode? : List UInt8 → Option (List Char)
  | [] => some []
  | first :: rest =>
      match (step first rest).1 with
      | some c => (decode? (step first rest).2).map (c :: ·)
      | none => none
  termination_by input => input.length
  decreasing_by
    have := step_length_le first rest
    simp only [List.length_cons]
    omega

end MethodCodec.Utf8
