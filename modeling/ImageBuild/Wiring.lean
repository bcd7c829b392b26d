import ImageBuild.Args
import ImageBuild.Log.Record

namespace ImageBuild.Wiring

inductive Client where
  | given
  | standard
deriving DecidableEq

inductive Daemon where
  | cli (client : Client)
  | custom (name : String)
deriving DecidableEq

inductive Query where
  | asking (daemon : Daemon)
  | custom (name : String)
deriving DecidableEq

def Daemon.name : Daemon → String
  | cli _ => "WhalesDaemon"
  | custom name => name

def Query.name : Query → String
  | asking _ => "DaemonQuery"
  | custom name => name

/-- A daemon that the standard query cannot ask. -/
structure QueryMissing where
  daemon : String
deriving DecidableEq

def QueryMissing.message (error : QueryMissing) : String :=
  s!"A custom daemon ({error.daemon}) needs a matching query; pass `query` as well."

structure Service where
  daemon : Daemon
  query : Query
deriving DecidableEq

def archiveName : String := "ArchiveService"
def authName : String := "AuthService"
def extractorName : String := "DockerfileExtractor"

def standardDaemon (client : Option Client) : Daemon := .cli (client.getD .standard)

def service (daemon : Option Daemon) (query : Option Query) (client : Option Client) :
    Except QueryMissing Service :=
  match daemon, query with
  | some (.custom name), none => .error ⟨name⟩
  | some daemon, some query => .ok ⟨daemon, query⟩
  | some daemon, none => .ok ⟨daemon, .asking daemon⟩
  | none, query =>
    let daemon := standardDaemon client
    .ok ⟨daemon, query.getD (.asking daemon)⟩

def Service.wired (service : Service) : Log.Record :=
  ⟨.debug, .wiring,
    s!"BuildService wired with daemon={service.daemon.name}, query={service.query.name}, archive={archiveName}"⟩

end ImageBuild.Wiring
