import ImageBuild.Config.Refusal
import ImageBuild.Text.Blank

/-!
# Pull policies

* `on` pulls an image that is neither cached nor present.
* `once` pulls unconditionally, but a cached image never again.
* `always` pulls unconditionally.
* `off` never pulls.

Where unconditional pulls are not allowed, `once` and `always` behave like `on`.
-/

namespace ImageBuild.Pull

inductive Policy where
  | on
  | once
  | always
  | off
deriving DecidableEq

/-- What a policy says about one image. -/
inductive Verdict where
  | pull
  | skip
  /-- Pull if the daemon does not have the image. -/
  | pullIfAbsent
deriving DecidableEq

namespace Policy

def word : Policy → String
  | on => "on"
  | once => "once"
  | always => "always"
  | off => "off"

def ofWord? : String → Option Policy
  | "true" | "on" => some on
  | "false" | "off" => some off
  | "once" => some once
  | "always" => some always
  | _ => none

/-- An absent or empty policy is `on`. -/
def parse : Option String → Except Config.Refusal Policy
  | none | some "" => .ok on
  | some text =>
    match ofWord? (Text.plainWord text) with
    | some policy => .ok policy
    | none => .error (.autoPullMode text)

def isUnconditional : Policy → Bool
  | once | always => true
  | on | off => false

def verdict (policy : Policy) (alwaysAllowed cached : Bool) : Verdict :=
  match policy with
  | off => .skip
  | on => if cached then .skip else .pullIfAbsent
  | once => if cached then .skip else if alwaysAllowed then .pull else .pullIfAbsent
  | always => if alwaysAllowed then .pull else if cached then .skip else .pullIfAbsent

end Policy

end ImageBuild.Pull
