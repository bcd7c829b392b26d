import ImageBuild.Path

namespace ImageBuild.Archive

def isSafe (c : Char) : Bool := c.isAlphanum || c == '_' || c == '.' || c == '-'

def replaceUnsafe : Bool → List Char → List Char
  | _, [] => []
  | replaced, c :: rest =>
    if isSafe c then c :: replaceUnsafe false rest
    else if replaced then replaceUnsafe true rest
    else '_' :: replaceUnsafe true rest

def stripUnderscores (s : List Char) : List Char :=
  ((s.dropWhile (· == '_')).reverse.dropWhile (· == '_')).reverse

def safeName (image : String) : String :=
  match stripUnderscores (replaceUnsafe false image.toList) with
  | [] => "image"
  | s => String.ofList s

def fileName : String := "docker-build.tar"

def dockerfileName : String := "Dockerfile"

def directory (outputDir : Path) (image : String) : Path := outputDir.join (Path.ofText (safeName image))

def location (outputDir : Path) (image : String) : Path := (directory outputDir image).child fileName

end ImageBuild.Archive
