namespace ImageBuild.Config

inductive Step where
  | key (name : String)
  | index (n : Int)
deriving DecidableEq

inductive IssueKind where
  | missing
  | notText
  | notUnicode
  | notFlag
  | unknownFlag
  | notTable
  | notList
  | notRecord (model : String)
  | notPath
  | numberTooLong
deriving DecidableEq

structure Issue where
  location : List Step
  kind : IssueKind
deriving DecidableEq

def IssueKind.code : IssueKind → String
  | missing => "missing"
  | notText => "string_type"
  | notUnicode => "string_unicode"
  | notFlag => "bool_type"
  | unknownFlag => "bool_parsing"
  | notTable => "dict_type"
  | notList => "list_type"
  | notRecord _ => "model_type"
  | notPath => "path_type"
  | numberTooLong => "value_error"

def IssueKind.message : IssueKind → String
  | missing => "Field required"
  | notText => "Input should be a valid string"
  | notUnicode => "Input should be a valid string, unable to parse raw data as a unicode string"
  | notFlag => "Input should be a valid boolean"
  | unknownFlag => "Input should be a valid boolean, unable to interpret input"
  | notTable => "Input should be a valid dictionary"
  | notList => "Input should be a valid list"
  | notRecord model => s!"Input should be a valid dictionary or instance of {model}"
  | notPath => "Input is not a valid path for <class 'pathlib.Path'>"
  | numberTooLong =>
    "Value error, Exceeds the limit (4300 digits) for integer string conversion; " ++
      "use sys.set_int_max_str_digits() to increase the limit"

end ImageBuild.Config
