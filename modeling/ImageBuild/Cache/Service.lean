import ImageBuild.Cache.PullCache
import ImageBuild.Cache.Store

/-!
# The pull cache of a run

The cache lives as text under one key of the property store. Each step reads the text anew and
writes it back at once.
-/

namespace ImageBuild.Cache

def cacheKey : String := "CONTEXT_KEY_PREVIOUSLY_PULLED"

/-- A step over the store; what it wrote stays when it fails. -/
abbrev Step (α : Type) := ExceptT Unreadable (StateM Ledger) α

def note (severity : Log.Severity) (channel : Log.Channel) (message : String) : Step Unit :=
  modify fun ledger => ledger.note severity channel message

/-- Reads a cache; a corrupted text counts as an empty one, with a warning. -/
def recover (text : Option String) : Step PullCache :=
  match PullCache.parse text with
  | .ok cache => pure cache
  | .error (.corrupted reason) => do
    note .warning .pullCache s!"[PullCache] {reason.message}. Starting from an empty cache."
    pure .empty
  | .error reason => throw reason

/-- The current cache; the first access creates an empty entry. -/
def load (key : String := cacheKey) : Step PullCache := do
  let text := (← get).store.get? key
  let cache ← recover text
  if text.isNone then
    modify fun ledger => ledger.set key cache.serialize
    note .debug .cache s!"[PullCache] Initialized empty pull cache under '{key}'"
  return cache

def add (image : String) (key : String := cacheKey) : Step Unit := do
  let cache ← load key
  let grown := cache.add image
  modify fun ledger => ledger.set key grown.serialize
  note .debug .cache s!"[PullCache] Recorded '{image}' ({grown.size} image(s) pulled this run)"

def contains (image : String) (key : String := cacheKey) : Step Bool := do
  return (← load key).contains image

end ImageBuild.Cache
