/-!
# UTF-8

Encoding writes each character in one to four bytes.  Decoding accepts exactly
the shortest encodings of Unicode scalar values; where it fails it tells how many
bytes could be decoded before the fault.  The main statements are that decoding
reads back what encoding wrote, and that a byte below 128 is never a part of a
longer encoding.
-/

namespace DataSuite
namespace Utf8

/-- The byte that carries six bits of a character behind its first byte. -/
def continuation (bits : Nat) : UInt8 :=
  UInt8.ofNat (0x80 + bits % 64)

/-- The bytes of one character. -/
def encodeChar (character : Char) : List UInt8 :=
  let code := character.toNat
  if code < 0x80 then [UInt8.ofNat code]
  else if code < 0x800 then [UInt8.ofNat (0xc0 + code / 64), continuation code]
  else if code < 0x10000 then
    [UInt8.ofNat (0xe0 + code / 4096), continuation (code / 64), continuation code]
  else
    [UInt8.ofNat (0xf0 + code / 262144), continuation (code / 4096),
      continuation (code / 64), continuation code]

/-- The bytes of a text. -/
def encode (text : String) : List UInt8 :=
  text.toList.flatMap encodeChar

/-- Whether a byte may stand behind the first byte of a character. -/
def isContinuation (byte : UInt8) : Bool :=
  0x80 ≤ byte.toNat && byte.toNat < 0xc0

/-- The character whose code is given, in front of characters decoded behind it. -/
def push (code : Nat) (decoded : Except Nat (List Char)) : Except Nat (List Char) :=
  decoded.map (Char.ofNat code :: ·)

/-- The characters of a byte sequence that begins at an offset, or the offset of the
first byte that belongs to no character. -/
def decodeFrom (offset : Nat) : List UInt8 → Except Nat (List Char)
  | [] => .ok []
  | first :: rest =>
      let lead := first.toNat
      if lead < 0x80 then push lead (decodeFrom (offset + 1) rest)
      else
        match rest with
        | [] => .error offset
        | second :: rest =>
            if !isContinuation second then .error offset
            else if 0xc2 ≤ lead && lead < 0xe0 then
              push ((lead - 0xc0) * 64 + (second.toNat - 0x80)) (decodeFrom (offset + 2) rest)
            else
              match rest with
              | [] => .error offset
              | third :: rest =>
                  let code := (lead - 0xe0) * 4096 + (second.toNat - 0x80) * 64 +
                    (third.toNat - 0x80)
                  if !isContinuation third then .error offset
                  else if 0xe0 ≤ lead && lead < 0xf0 then
                    if 0x800 ≤ code && (code < 0xd800 || 0xe000 ≤ code) then
                      push code (decodeFrom (offset + 3) rest)
                    else .error offset
                  else
                    match rest with
                    | [] => .error offset
                    | fourth :: rest =>
                        let code := (lead - 0xf0) * 262144 + (second.toNat - 0x80) * 4096 +
                          (third.toNat - 0x80) * 64 + (fourth.toNat - 0x80)
                        if isContinuation fourth && 0xf0 ≤ lead && 0x10000 ≤ code &&
                            code < 0x110000 then
                          push code (decodeFrom (offset + 4) rest)
                        else .error offset

/-- The text of a byte sequence, or the number of bytes that could be decoded. -/
def decode (bytes : List UInt8) : Except Nat String :=
  (decodeFrom 0 bytes).map String.ofList

@[simp] theorem toNat_continuation (bits : Nat) :
    (continuation bits).toNat = 0x80 + bits % 64 := by
  simp only [continuation, UInt8.toNat_ofNat']
  omega

@[simp] theorem isContinuation_continuation (bits : Nat) :
    isContinuation (continuation bits) = true := by
  simp only [isContinuation, toNat_continuation, Bool.and_eq_true, decide_eq_true_eq]
  omega

/-- A character's code lies outside the surrogates and below the end of the code space. -/
theorem scalar_bounds (character : Char) :
    character.toNat < 0xd800 ∨ 0xe000 ≤ character.toNat ∧ character.toNat < 0x110000 := by
  have valid := character.valid
  unfold UInt32.isValidChar Nat.isValidChar at valid
  have same : character.val.toNat = character.toNat := rfl
  omega

/-- Every byte of an encoding of several bytes has its highest bit set. -/
theorem le_toNat_of_mem_encodeChar
    {character : Char}
    (long : 0x80 ≤ character.toNat) :
    ∀ byte ∈ encodeChar character, 0x80 ≤ byte.toNat := by
  have bounds := scalar_bounds character
  unfold encodeChar
  generalize character.toNat = code at bounds long
  rw [if_neg (Nat.not_lt.mpr long)]
  repeat' split
  all_goals
    simp only [List.forall_mem_cons, UInt8.toNat_ofNat', toNat_continuation, List.not_mem_nil,
      false_implies, implies_true, and_true]
    omega

/-- A byte below 128 stands for the character of that code and is part of no other one. -/
theorem toNat_eq_of_mem_encodeChar
    {character : Char}
    {byte : UInt8}
    (member : byte ∈ encodeChar character)
    (small : byte.toNat < 0x80) :
    character.toNat = byte.toNat := by
  have short : character.toNat < 0x80 :=
    Nat.lt_of_not_le fun long =>
      Nat.not_le.mpr small (le_toNat_of_mem_encodeChar long byte member)
  rw [encodeChar, if_pos short, List.mem_singleton] at member
  rw [member, UInt8.toNat_ofNat']
  omega

/-- Decoding takes an encoded character off the front. -/
theorem decodeFrom_encodeChar_append (offset : Nat) (character : Char) (rest : List UInt8) :
    decodeFrom offset (encodeChar character ++ rest) =
      (decodeFrom (offset + (encodeChar character).length) rest).map (character :: ·) := by
  have bounds := scalar_bounds character
  have restored : Char.ofNat character.toNat = character := Char.ofNat_toNat character
  unfold encodeChar
  generalize codeIs : character.toNat = code at bounds restored
  by_cases oneByte : code < 0x80
  · have first : (UInt8.ofNat code).toNat = code := by
      simp only [UInt8.toNat_ofNat']; omega
    rw [if_pos oneByte, List.cons_append, List.nil_append, decodeFrom.eq_def]
    simp only [first, oneByte, if_true, push, restored, List.length_cons, List.length_nil]
  by_cases twoBytes : code < 0x800
  · have first : (UInt8.ofNat (0xc0 + code / 64)).toNat = 0xc0 + code / 64 := by
      simp only [UInt8.toNat_ofNat']; omega
    have small : ¬ 0xc0 + code / 64 < 0x80 := by omega
    have lower : 0xc2 ≤ 0xc0 + code / 64 := by omega
    have upper : 0xc0 + code / 64 < 0xe0 := by omega
    have joined : (0xc0 + code / 64 - 0xc0) * 64 + (0x80 + code % 64 - 0x80) = code := by omega
    rw [if_neg oneByte, if_pos twoBytes, List.cons_append, List.cons_append, List.nil_append,
      decodeFrom.eq_def]
    simp only [if_false, if_true, push, first, small, isContinuation_continuation,
      toNat_continuation, lower, upper, joined, restored, Bool.not_true, decide_true,
      Bool.and_self, List.length_cons, List.length_nil, Bool.false_eq_true]
  by_cases threeBytes : code < 0x10000
  · have first : (UInt8.ofNat (0xe0 + code / 4096)).toNat = 0xe0 + code / 4096 := by
      simp only [UInt8.toNat_ofNat']; omega
    have small : ¬ 0xe0 + code / 4096 < 0x80 := by omega
    have notTwo : ¬ 0xe0 + code / 4096 < 0xe0 := by omega
    have lower : 0xe0 ≤ 0xe0 + code / 4096 := by omega
    have upper : 0xe0 + code / 4096 < 0xf0 := by omega
    have joined : (0xe0 + code / 4096 - 0xe0) * 4096 + (0x80 + code / 64 % 64 - 0x80) * 64 +
        (0x80 + code % 64 - 0x80) = code := by omega
    have long : 0x800 ≤ code := by omega
    have scalar : code < 0xd800 ∨ 0xe000 ≤ code := by omega
    rw [if_neg oneByte, if_neg twoBytes, if_pos threeBytes, List.cons_append, List.cons_append,
      List.cons_append, List.nil_append, decodeFrom.eq_def]
    simp only [if_false, if_true, push, first, small, isContinuation_continuation,
      toNat_continuation, notTwo, lower, upper, joined, restored, long, scalar, Bool.not_true,
      decide_true, decide_false, Bool.and_false, Bool.and_self, List.length_cons,
      List.length_nil, Bool.false_eq_true, Bool.and_eq_true, Bool.or_eq_true, decide_eq_true_eq,
      and_self]
  · have first : (UInt8.ofNat (0xf0 + code / 262144)).toNat = 0xf0 + code / 262144 := by
      simp only [UInt8.toNat_ofNat']; omega
    have small : ¬ 0xf0 + code / 262144 < 0x80 := by omega
    have notTwo : ¬ 0xf0 + code / 262144 < 0xe0 := by omega
    have notThree : ¬ 0xf0 + code / 262144 < 0xf0 := by omega
    have lower : 0xf0 ≤ 0xf0 + code / 262144 := by omega
    have joined : (0xf0 + code / 262144 - 0xf0) * 262144 +
        (0x80 + code / 4096 % 64 - 0x80) * 4096 +
        (0x80 + code / 64 % 64 - 0x80) * 64 + (0x80 + code % 64 - 0x80) = code := by omega
    have long : 0x10000 ≤ code := by omega
    have inside : code < 0x110000 := by omega
    rw [if_neg oneByte, if_neg twoBytes, if_neg threeBytes, List.cons_append, List.cons_append,
      List.cons_append, List.cons_append, List.nil_append, decodeFrom.eq_def]
    simp only [if_false, if_true, push, first, small, isContinuation_continuation,
      toNat_continuation, notTwo, notThree, lower, inside, joined, restored, long, Bool.not_true,
      decide_true, decide_false, Bool.and_false, Bool.and_self, List.length_cons,
      List.length_nil, Bool.false_eq_true]

/-- Decoding from any offset reads back encoded characters. -/
theorem decodeFrom_flatMap_encodeChar (offset : Nat) (characters : List Char) :
    decodeFrom offset (characters.flatMap encodeChar) = .ok characters := by
  induction characters generalizing offset with
  | nil => rfl
  | cons first rest inductionHypothesis =>
      rw [List.flatMap_cons, decodeFrom_encodeChar_append, inductionHypothesis]
      rfl

/-- Decoding reads back what encoding wrote. -/
theorem decode_encode (text : String) : decode (encode text) = .ok text := by
  rw [decode, encode, decodeFrom_flatMap_encodeChar]
  exact congrArg Except.ok String.ofList_toList

end Utf8
end DataSuite
