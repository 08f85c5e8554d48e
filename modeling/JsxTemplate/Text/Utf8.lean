import JsxTemplate.Text.Numeral

/-!
# Text in files

Files hold bytes. A text is written as UTF-8 and read back from it, and reading
says where a file stops being UTF-8. Read lines end in a line feed, whichever
way the file ends them.
-/

namespace JsxTemplate.Text

/-- The contents of a file. -/
abbrev Bytes := List UInt8

/-- Why a run of bytes is no character. -/
inductive DecodeReason where
  | start
  | continuation
  | truncated
deriving DecidableEq, Repr

/-- The bytes from offset `first` to offset `last` are no character; `byte` is
the one at `first`. -/
structure DecodeFault where
  byte : UInt8
  first : Nat
  last : Nat
  reason : DecodeReason
deriving DecidableEq, Repr

def DecodeReason.message : DecodeReason → Text
  | .start => "invalid start byte"
  | .continuation => "invalid continuation byte"
  | .truncated => "unexpected end of data"

def DecodeFault.message (f : DecodeFault) : Text :=
  if f.first = f.last then
    "'utf-8' codec can't decode byte 0x" ++ hex 2 f.byte.toNat ++ " in position " ++
      ofNat f.first ++ ": " ++ f.reason.message
  else
    "'utf-8' codec can't decode bytes in position " ++ ofNat f.first ++ "-" ++ ofNat f.last ++
      ": " ++ f.reason.message

/-- What a first byte announces: the bits it contributes, and for each
continuation byte the least and the greatest value it may have. -/
def lead? (b : Nat) : Option (Nat × List (Nat × Nat)) :=
  if b < 0x80 then some (b, [])
  else if b < 0xC2 then none
  else if b < 0xE0 then some (b - 0xC0, [(0x80, 0xBF)])
  else if b = 0xE0 then some (0, [(0xA0, 0xBF), (0x80, 0xBF)])
  else if b = 0xED then some (0x0D, [(0x80, 0x9F), (0x80, 0xBF)])
  else if b < 0xF0 then some (b - 0xE0, [(0x80, 0xBF), (0x80, 0xBF)])
  else if b = 0xF0 then some (0, [(0x90, 0xBF), (0x80, 0xBF), (0x80, 0xBF)])
  else if b < 0xF4 then some (b - 0xF0, [(0x80, 0xBF), (0x80, 0xBF), (0x80, 0xBF)])
  else if b = 0xF4 then some (4, [(0x80, 0x8F), (0x80, 0xBF), (0x80, 0xBF)])
  else none

/-- The decoder between two bytes: nothing is owed, or a character begun by
`byte` at `first` still needs bytes in the ranges `owed`. -/
inductive DecodeState where
  | between
  | inside (byte : UInt8) (first : Nat) (bits : Nat) (owed : List (Nat × Nat))

/-- Reads the bytes from an offset on. -/
def decodeFrom : DecodeState → Nat → Bytes → Except DecodeFault Text
  | .between, _, [] => .ok []
  | .inside byte first _ _, pos, [] => .error ⟨byte, first, pos - 1, .truncated⟩
  | .between, pos, b :: bs =>
    match lead? b.toNat with
    | none => .error ⟨b, pos, pos, .start⟩
    | some (bits, []) => (decodeFrom .between (pos + 1) bs).map (Char.ofNat bits :: ·)
    | some (bits, owed) => decodeFrom (.inside b pos bits owed) (pos + 1) bs
  | .inside byte first _ [], pos, _ :: _ => .error ⟨byte, first, pos - 1, .continuation⟩
  | .inside byte first bits ((low, high) :: owed), pos, b :: bs =>
    if low ≤ b.toNat ∧ b.toNat ≤ high then
      let bits := bits * 64 + (b.toNat - 0x80)
      match owed with
      | [] => (decodeFrom .between (pos + 1) bs).map (Char.ofNat bits :: ·)
      | _ :: _ => decodeFrom (.inside byte first bits owed) (pos + 1) bs
    else .error ⟨byte, first, pos - 1, .continuation⟩

/-- The text that a file holds, as UTF-8. -/
def decode (bs : Bytes) : Except DecodeFault Text := decodeFrom .between 0 bs

/-- The bytes that a text is written as. -/
def encode (s : Text) : Bytes := s.flatMap String.utf8EncodeChar

/-- Every line end, be it a carriage return, a line feed or both in this
order, made a line feed. -/
def unifyLineEnds : Text → Text
  | [] => []
  | '\r' :: '\n' :: s => '\n' :: unifyLineEnds s
  | c :: s => (if c = '\r' then '\n' else c) :: unifyLineEnds s

end JsxTemplate.Text
