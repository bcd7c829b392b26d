namespace ImageBuild.Text.Utf8

inductive Reason where
  | badStart
  | badContinuation
  | endOfData
deriving DecidableEq

structure Fault where
  reason : Reason
  byte : UInt8
  offset : Nat
  length : Nat
deriving DecidableEq

def Reason.text : Reason → String
  | badStart => "invalid start byte"
  | badContinuation => "invalid continuation byte"
  | endOfData => "unexpected end of data"

def hexByte (byte : UInt8) : String :=
  let digits := Nat.toDigits 16 byte.toNat
  String.ofList (List.replicate (2 - digits.length) '0' ++ digits)

def Fault.message (fault : Fault) : String :=
  let place :=
    if fault.length = 1 then s!"byte 0x{hexByte fault.byte} in position {fault.offset}"
    else s!"bytes in position {fault.offset}-{fault.offset + fault.length - 1}"
  s!"'utf-8' codec can't decode {place}: {fault.reason.text}"

/-- How many continuation bytes a start byte asks for, with the bounds of the first of them. -/
def expected (byte : UInt8) : Option (Nat × UInt8 × UInt8) :=
  if byte < 0x80 then some (0, 0x80, 0xBF)
  else if byte < 0xC2 then none
  else if byte < 0xE0 then some (1, 0x80, 0xBF)
  else if byte = 0xE0 then some (2, 0xA0, 0xBF)
  else if byte = 0xED then some (2, 0x80, 0x9F)
  else if byte < 0xF0 then some (2, 0x80, 0xBF)
  else if byte = 0xF0 then some (3, 0x90, 0xBF)
  else if byte < 0xF4 then some (3, 0x80, 0xBF)
  else if byte = 0xF4 then some (3, 0x80, 0x8F)
  else none

def payload (byte : UInt8) : Nat :=
  if byte < 0x80 then byte.toNat
  else if byte < 0xE0 then byte.toNat % 0x20
  else if byte < 0xF0 then byte.toNat % 0x10
  else byte.toNat % 0x08

/-- A character of which some continuation bytes are missing. -/
structure Pending where
  start : UInt8
  offset : Nat
  length : Nat
  left : Nat
  low : UInt8
  high : UInt8
  value : Nat

def decodeFrom (offset : Nat) (pending : Option Pending) : List UInt8 → Except Fault (List Char)
  | [] =>
    match pending with
    | none => .ok []
    | some p => .error ⟨.endOfData, p.start, p.offset, p.length⟩
  | byte :: rest =>
    match pending with
    | none =>
      match expected byte with
      | none => .error ⟨.badStart, byte, offset, 1⟩
      | some (0, _, _) => (decodeFrom (offset + 1) none rest).map (Char.ofNat byte.toNat :: ·)
      | some (left + 1, low, high) =>
        decodeFrom (offset + 1) (some ⟨byte, offset, 1, left + 1, low, high, payload byte⟩) rest
    | some p =>
      if p.low ≤ byte ∧ byte ≤ p.high then
        let value := p.value * 0x40 + byte.toNat % 0x40
        if p.left ≤ 1 then (decodeFrom (offset + 1) none rest).map (Char.ofNat value :: ·)
        else
          decodeFrom (offset + 1)
            (some ⟨p.start, p.offset, p.length + 1, p.left - 1, 0x80, 0xBF, value⟩) rest
      else .error ⟨.badContinuation, p.start, p.offset, p.length⟩

def decode (bytes : ByteArray) : Except Fault (List Char) := decodeFrom 0 none bytes.toList

end ImageBuild.Text.Utf8
