import ImageBuild.Data.Value
import ImageBuild.Text.Base64
import ImageBuild.Yaml.Number
import ImageBuild.Yaml.Tag

namespace ImageBuild.Yaml

open Data

def bool (text : String) : Except Fault Bool :=
  match String.ofList (text.toList.map Char.toLower) with
  | "yes" | "true" | "on" => .ok true
  | "no" | "false" | "off" => .ok false
  | _ => .error .unknownWord

def bytes (text : String) : Except Fault (List UInt8) :=
  if text.toList.all fun c => c.toNat < 0x80 then
    match Text.Base64.decode text.toList with
    | some found => .ok found
    | none => .error .malformed
  else .error .malformed

def WrittenMoment.value (written : WrittenMoment) : Except Fault Value :=
  match written.time with
  | none => if written.date.isValid then .ok (.date written.date) else .error .outOfRange
  | some time =>
    let found : Moment :=
      ⟨written.date, time.hour, time.minute, time.second, time.microsecond, time.offset⟩
    if found.isValid then .ok (.moment found) else .error .outOfRange

def moment (text : String) : Except Fault Value :=
  match WrittenMoment.ofText? (Tag.bare text.toList) with
  | some written => written.value
  | none => .error .notMoment

def Tag.value (tag : Tag) (written : String) : Except Fault Value :=
  match tag with
  | null => .ok .null
  | bool => .bool <$> Yaml.bool written
  | int => .int <$> Number.int written
  | float => .float <$> Number.float written
  | bytes => .bytes <$> Yaml.bytes written
  | moment => Yaml.moment written
  | text => .ok (.text written)
  | list | table | set | pairs | merge | default | unknown => .error .malformed

/-- Tags of values that are read from a collection. -/
def Tag.isCollection (tag : Tag) : Bool :=
  match tag with
  | list | table | set | pairs => true
  | null | bool | int | float | bytes | moment | text | merge | default | unknown => false

end ImageBuild.Yaml
