import ImageBuild.Config.Field

namespace ImageBuild.Config

open Data

structure Credentials where
  username : String
  password : String
  email : Option String
deriving DecidableEq

structure Auth where
  fallback : Option Credentials
  push : Option Credentials
  registries : Table Credentials
deriving DecidableEq

def Credentials.fields (at_ : List Step) (entries : List (Value × Value)) : Checked Credentials :=
  Credentials.mk
    <$> required text at_ entries ["username"]
    <*> required text at_ entries ["password"]
    <*> withDefault (optional text) none at_ entries ["email"]

def Credentials.read : Reader Credentials := record "RegistryCredentials" Credentials.fields

def Auth.none : Auth := ⟨.none, .none, .empty⟩

def Auth.fields (at_ : List Step) (entries : List (Value × Value)) : Checked Auth :=
  Auth.mk
    <$> withDefault (optional Credentials.read) .none at_ entries ["default"]
    <*> withDefault (optional Credentials.read) .none at_ entries ["push"]
    <*> withDefault (table Credentials.read) .empty at_ entries ["registries"]

def Auth.read : Reader Auth := record "AuthParameters" Auth.fields

end ImageBuild.Config
