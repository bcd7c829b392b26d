import ImageBuild.Yaml.Fault

/-!
# The earliest fault

A document is read level by level. Of several faults the one at the outermost level counts, and of
those the first.
-/

namespace ImageBuild.Yaml

structure Stop where
  /-- How many collections lie around the fault. -/
  level : Nat
  fault : Fault

/-- A value, or the fault that stops the reading first. -/
inductive Earliest (α : Type) where
  | value (a : α)
  | stopped (stop : Stop)

namespace Earliest

variable {α β : Type}

def fault (f : Fault) : Earliest α := stopped ⟨0, f⟩

def ofExcept : Except Fault α → Earliest α
  | .ok a => value a
  | .error f => fault f

def map (f : α → β) : Earliest α → Earliest β
  | value a => value (f a)
  | stopped s => stopped s

def deeper : Earliest α → Earliest α
  | value a => value a
  | stopped s => stopped ⟨s.level + 1, s.fault⟩

def both (first : Earliest α) (second : Earliest β) : Earliest (α × β) :=
  match first, second with
  | value a, value b => value (a, b)
  | stopped s, stopped t => stopped (if t.level < s.level then t else s)
  | stopped s, value _ => stopped s
  | value _, stopped t => stopped t

def all : List (Earliest α) → Earliest (List α)
  | [] => value []
  | first :: rest => (both first (all rest)).map fun (a, l) => a :: l

def toExcept : Earliest α → Except Fault α
  | value a => .ok a
  | stopped s => .error s.fault

end Earliest

end ImageBuild.Yaml
