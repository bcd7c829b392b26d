namespace ImageBuild.Yaml

inductive Fault where
  | malformed
  | tooDeep
  | outOfRange
  /-- Half of a surrogate pair, which a text here cannot hold. Elsewhere it can: such a text is accepted as a
  setting, but cannot be written out again. -/
  | half
  | tooLarge
  | unknownWord
  | emptyNumber
  | notMoment
  | momentOfTable
deriving DecidableEq

end ImageBuild.Yaml
