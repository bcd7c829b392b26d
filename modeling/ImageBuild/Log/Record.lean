namespace ImageBuild.Log

inductive Severity where
  | debug
  | info
  | warning
  | error
deriving DecidableEq

def Severity.name : Severity → String
  | debug => "DEBUG"
  | info => "INFO"
  | warning => "WARNING"
  | error => "ERROR"

def Severity.rank : Severity → Nat
  | debug => 10
  | info => 20
  | warning => 30
  | error => 40

inductive Channel where
  | archive
  | args
  | auth
  | base
  | cache
  | config
  | daemon
  | executor
  | pullCache
  | puller
  | query
  | setup
  | store
  | wiring
  | workflow
deriving DecidableEq

def Channel.name : Channel → String
  | archive => "dockbuilder.access.archive"
  | args => "dockbuilder.builder.args"
  | auth => "dockbuilder.access.auth"
  | base => "dockbuilder.access.dockerfile"
  | cache => "dockbuilder.cache.service"
  | config => "dockbuilder.config"
  | daemon => "dockbuilder.access.daemon"
  | executor => "dockbuilder.builder.executor"
  | pullCache => "dockbuilder.cache.pull_cache"
  | puller => "dockbuilder.builder.pull"
  | query => "dockbuilder.access.query"
  | setup => "dockbuilder.utils.logger"
  | store => "dockbuilder.cache.store"
  | wiring => "dockbuilder.factories"
  | workflow => "dockbuilder.builder.workflow"

structure Record where
  severity : Severity
  channel : Channel
  message : String
deriving DecidableEq

end ImageBuild.Log
