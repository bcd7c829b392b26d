import ImageBuild.Data.Display
import ImageBuild.Data.Table
import ImageBuild.Log.Record
import ImageBuild.Text.Blank

namespace ImageBuild.Args

open Data

def marker : String := "docker.buildArg."

def nocacheProperty : String := "docker.nocache"

/-- The argument that a property sets: its name follows the marker, and neither is empty. -/
def ofProperty? (marker : String) (property : String × String) : Option (String × String) :=
  match List.isPrefixOf? marker.toList property.1.toList with
  | some [] | none => none
  | some name => if property.2 = "" then none else some (String.ofList name, property.2)

def fromProperties (marker : String) (properties : Table String) : Table String :=
  Table.ofList (properties.entries.filterMap (ofProperty? marker))

/-- Arguments come from the run, the project, the global properties and the image; later ones win. -/
def resolve (marker : String) (run project global image : Table String) : Table String :=
  (((Table.empty.merge run).merge (fromProperties marker project)).merge
    (fromProperties marker global)).merge image

/-- A source that is missing sets nothing. -/
def resolveGiven (marker : String) (run project global image : Option (Table String)) : Table String :=
  resolve marker (run.getD .empty) (project.getD .empty) (global.getD .empty) (image.getD .empty)

def resolvedRecord (args : Table String) : Log.Record :=
  ⟨.debug, .args, "[BuildArgs] Resolved build args: " ++ quotedTable args.entries⟩

/-- An override wins: an empty one means yes, any other must read `true`. -/
def nocache (override : Option String) (configured : Bool) : Bool :=
  match override with
  | some text => text == "" || Text.plainWord text == "true"
  | none => configured

end ImageBuild.Args
