namespace ImageBuild.Text.Base64

def digit? (c : Char) : Option Nat :=
  if 'A' ≤ c ∧ c ≤ 'Z' then some (c.toNat - 0x41)
  else if 'a' ≤ c ∧ c ≤ 'z' then some (c.toNat - 0x47)
  else if '0' ≤ c ∧ c ≤ '9' then some (c.toNat + 4)
  else if c = '+' then some 62
  else if c = '/' then some 63
  else none

/-- The bytes from here on: `filled` digits of a group of four have been read, the bits that they
leave over are `left`, and `pads` padding characters follow them. -/
def bytesFrom (filled left pads : Nat) : List Char → Option (List UInt8)
  | [] => if filled = 0 then some [] else none
  | c :: r =>
    if c = '=' then
      if 2 ≤ filled ∧ 4 ≤ filled + pads + 1 then some []
      else bytesFrom filled left (if 2 ≤ filled then pads + 1 else pads) r
    else
      match digit? c with
      | none => bytesFrom filled left pads r
      | some d =>
        match filled with
        | 0 => bytesFrom 1 d 0 r
        | 1 => (bytesFrom 2 (d % 16) 0 r).map ((left * 4 + d / 16).toUInt8 :: ·)
        | 2 => (bytesFrom 3 (d % 4) 0 r).map ((left * 16 + d / 4).toUInt8 :: ·)
        | _ => (bytesFrom 0 0 0 r).map ((left * 64 + d).toUInt8 :: ·)

def decode (s : List Char) : Option (List UInt8) := bytesFrom 0 0 0 s

end ImageBuild.Text.Base64
