import ImageBuild.Config.RunFile

namespace ImageBuild.Config

open Data

/-- The names that documents use, or the names of the fields. -/
inductive Naming where
  | document
  | field
deriving DecidableEq

def Naming.pick (naming : Naming) (document field : String) : String :=
  match naming with
  | .document => document
  | .field => field

def written (entries : List (String × Value)) : Value := .map (entries.map fun (k, v) => (.text k, v))

def writtenText (text : Option String) : Value := (text.map Value.text).getD .null

def writtenTable (table : Table String) : Value := written (table.entries.map fun (k, v) => (k, .text v))

def Credentials.written (credentials : Credentials) : Value :=
  Config.written [("username", .text credentials.username), ("password", .text credentials.password),
    ("email", writtenText credentials.email)]

def Auth.written (auth : Auth) : Value :=
  let optional (credentials : Option Credentials) : Value := (credentials.map (·.written)).getD .null
  Config.written [("default", optional auth.fallback), ("push", optional auth.push),
    ("registries", Config.written (auth.registries.entries.map fun (k, c) => (k, c.written)))]

def Assembly.written (naming : Naming) (assembly : Assembly) : Value :=
  Config.written [("name", .text assembly.name),
    (naming.pick "sourceDir" "source_dir", writtenText assembly.sourceDir),
    (naming.pick "targetDir" "target_dir", writtenText assembly.targetDir),
    ("descriptor", writtenText assembly.descriptor)]

def Build.written (naming : Naming) (build : Build) : Value :=
  Config.written [(naming.pick "from" "from_image", writtenText build.base),
    (naming.pick "dockerFile" "dockerfile", writtenText build.dockerfile),
    (naming.pick "dockerArchive" "docker_archive", writtenText build.archive),
    (naming.pick "contextDir" "context_dir", writtenText build.contextDir),
    ("assembly", (build.assembly.map (·.written naming)).getD .null),
    (naming.pick "noCache" "nocache", .bool build.nocache), ("cleanup", .text build.cleanup.word),
    ("args", writtenTable build.args),
    (naming.pick "buildOptions" "build_options", writtenTable build.options)]

def Image.written (naming : Naming) (image : Image) : Value :=
  Config.written [("name", .text image.name), ("alias", writtenText image.aliasName),
    ("build", image.build.written naming)]

def RunFile.written (naming : Naming) (file : RunFile) : Value :=
  Config.written [("registry", writtenText file.registry),
    (naming.pick "pullRegistry" "pull_registry", writtenText file.pullRegistry),
    (naming.pick "autoPull" "auto_pull", writtenText file.autoPull),
    (naming.pick "buildArgs" "build_args", writtenTable file.buildArgs),
    ("properties", writtenTable file.properties),
    (naming.pick "outputDir" "output_dir", .text file.outputDir), ("auth", file.auth.written),
    ("images", .list (file.images.map (·.written naming)))]

end ImageBuild.Config
