import ImageBuild.Files.Error
import ImageBuild.Path

namespace ImageBuild.Archive

inductive Error where
  | noDockerfile (path : Path)
  | noContext (path : Path)
  | noSource (path : Path)
  | failed (image : String) (error : Files.Error)
deriving DecidableEq

def Error.message : Error → String
  | noDockerfile path => s!"Dockerfile '{path.text}' does not exist"
  | noContext path => s!"Context directory '{path.text}' does not exist"
  | noSource path => s!"Assembly source directory '{path.text}' does not exist"
  | failed image error => s!"Failed to create build archive for '{image}': {error.message}"

end ImageBuild.Archive
