import ImageBuild.Data.Table
import ImageBuild.Log.Record

namespace ImageBuild.Cache

open Data Log

abbrev Store := Table String

/-- The store and the records written so far, in order. -/
structure Ledger where
  store : Store
  log : List Record

def Ledger.note (ledger : Ledger) (severity : Severity) (channel : Channel) (message : String) : Ledger :=
  { ledger with log := ledger.log ++ [⟨severity, channel, message⟩] }

def Ledger.set (ledger : Ledger) (key value : String) : Ledger :=
  let noted := ledger.note .debug .store s!"[PropertyStore] {key} = {value}"
  { noted with store := ledger.store.put key value }

@[simp] theorem Ledger.store_note (ledger : Ledger) (severity : Severity) (channel : Channel)
    (message : String) : (ledger.note severity channel message).store = ledger.store := rfl

@[simp] theorem Ledger.store_set (ledger : Ledger) (key value : String) :
    (ledger.set key value).store = ledger.store.put key value := rfl

end ImageBuild.Cache
