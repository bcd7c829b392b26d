import ImageBuild.Yaml.Meaning
import ImageBuild.Yaml.Node.Parser
import ImageBuild.Yaml.Token.Lexer

namespace ImageBuild.Yaml

open Data

/-- The value that a text denotes; a text without a document is null. -/
def read (text : List Char) : Except Fault Value := do
  match ← Node.ofTokens (Token.scan text) with
  | none => return .null
  | some root => root.value

end ImageBuild.Yaml
