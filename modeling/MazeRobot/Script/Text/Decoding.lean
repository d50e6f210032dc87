/-!
# Bytes as text

Bytes in the usual encoding of texts become characters. Where they are no text,
each longest beginning of a character becomes one mark.
-/

namespace MazeRobot.Script.Text

/-- A character of which some bytes were seen. -/
structure Begun where
  /-- The bits so far. -/
  bits : Nat
  /-- How many bytes are missing. -/
  missing : Nat
  /-- The least byte that may come next. -/
  low : UInt8
  /-- The greatest byte that may come next. -/
  high : UInt8

/-- What stands for bytes that are no character. -/
def mark : Char := '\uFFFD'

/-- What a byte begins: a character on its own, or one of several bytes. -/
def beginning (b : UInt8) : Char ⊕ Begun :=
  let n := b.toNat
  if n < 0x80 then .inl (Char.ofNat n)
  else if n < 0xC2 then .inl mark
  else if n < 0xE0 then .inr ⟨n - 0xC0, 1, 0x80, 0xBF⟩
  else if n < 0xF0 then
    .inr ⟨n - 0xE0, 2, if n = 0xE0 then 0xA0 else 0x80, if n = 0xED then 0x9F else 0xBF⟩
  else if n < 0xF5 then
    .inr ⟨n - 0xF0, 3, if n = 0xF0 then 0x90 else 0x80, if n = 0xF4 then 0x8F else 0xBF⟩
  else .inl mark

/-- The characters of bytes behind a character that was begun or not. -/
def decodedFrom : Option Begun → List UInt8 → List Char
  | none, [] => []
  | some _, [] => [mark]
  | none, b :: rest =>
    match beginning b with
    | .inl c => c :: decodedFrom none rest
    | .inr begun => decodedFrom (some begun) rest
  | some begun, b :: rest =>
    if begun.low ≤ b ∧ b ≤ begun.high then
      let bits := begun.bits * 64 + (b.toNat - 0x80)
      if begun.missing ≤ 1 then Char.ofNat bits :: decodedFrom none rest
      else decodedFrom (some ⟨bits, begun.missing - 1, 0x80, 0xBF⟩) rest
    else
      match beginning b with
      | .inl c => mark :: c :: decodedFrom none rest
      | .inr next => mark :: decodedFrom (some next) rest

/-- The text of bytes. -/
def decoded (bytes : Array UInt8) : String :=
  String.ofList (decodedFrom none bytes.toList)

/-- The bytes of a text. -/
def encoded (s : String) : Array UInt8 :=
  s.toUTF8.data

end MazeRobot.Script.Text
