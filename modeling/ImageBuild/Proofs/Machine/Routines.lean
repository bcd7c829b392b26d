import ImageBuild.Machine.Collaborators
import ImageBuild.Machine.World
import ImageBuild.Proofs.Cache.Held
import ImageBuild.Proofs.Program.Confined

namespace ImageBuild.Machine

open Program
open Cache (mapError_eq_error mapError_eq_ok)
open Daemon (ClientError Command Operation)

abbrev Seen := Event interface

def Call.isInspection : Call → Bool
  | client (.inspect _) => true
  | _ => false

def refusal (operation : Operation) (error : ClientError) : Fault := .daemon (operation.error (.client error))

def signIn (server : Option String) (own : Config.Credentials) (answer : Except ClientError Unit) : Seen :=
  ⟨.client (.login server own.username own.password), answer⟩

def download (name : String) (answer : Except ClientError Unit) : Seen := ⟨.client (.pull name), answer⟩

/-- What a pull shows to the client, and how it ends: a login only where there are credentials, and
after a refused login no pull. -/
inductive Fetched (server : Option String) (credentials : Option Config.Credentials) (name : String) :
    List Seen → Except Fault Unit → Prop where
  | anonymous {answer : Except ClientError Unit} (unknown : credentials = none) :
      Fetched server credentials name [download name answer] (answer.mapError (refusal (.pull name)))
  | refused {own : Config.Credentials} {error : ClientError} (known : credentials = some own) :
      Fetched server credentials name [signIn server own (.error error)] (.error (refusal (.login server) error))
  | signedIn {own : Config.Credentials} {answer : Except ClientError Unit} (known : credentials = some own) :
      Fetched server credentials name [signIn server own (.ok ()), download name answer]
        (answer.mapError (refusal (.pull name)))

section behaviours

variable {i j : Inside} {es : List Seen}

theorem behaves_command {operation : Operation} {command : Command} {r : Except Fault command.Answer}
    (h : Behaves (Machine.command operation command) i es r j) :
    ∃ answer : Except ClientError command.Answer,
      es = [⟨.client command, answer⟩] ∧ r = answer.mapError (refusal operation) ∧ j = i := by
  cases h with
  | @perform _ _ answer _ _ _ _ rest =>
    cases answer with
    | ok value =>
      obtain ⟨rfl, rfl, rfl⟩ := behaves_pure rest
      exact ⟨.ok value, rfl, rfl, rfl⟩
    | error error =>
      obtain ⟨rfl, rfl, rfl⟩ := behaves_failed rest
      exact ⟨.error error, rfl, rfl, rfl⟩

theorem behaves_noted_command {message : String} {operation : Operation} {command : Command}
    {r : Except Fault command.Answer}
    (h : Behaves (debug message >>= fun _ => Machine.command operation command) i es r j) :
    ∃ answer : Except ClientError command.Answer,
      es = [⟨.client command, answer⟩] ∧ r = answer.mapError (refusal operation) := by
  cases h with
  | ledger rest =>
    obtain ⟨answer, made, ended, -⟩ := behaves_command rest
    exact ⟨answer, made, ended⟩

theorem behaves_resolveLogin {image : Reference} {registry : Option String} {isPush : Bool} {auth : Config.Auth}
    {r : Except Fault (Option Login)} (h : Behaves (resolveLogin image registry isPush auth) i es r j) :
    es = [] ∧ r = .ok (Login.resolve auth image registry isPush).1 := by
  cases h with
  | ledger rest =>
    obtain ⟨rfl, rfl, -⟩ := behaves_pure rest
    exact ⟨rfl, rfl⟩

theorem behaves_tag {source target : String} {r : Except Fault Unit} (h : Behaves (tag source target) i es r j) :
    ∃ answer : Except ClientError Unit,
      es = [⟨.client (.tag source target), answer⟩] ∧ r = answer.mapError (refusal (.tag source target)) :=
  behaves_noted_command h

theorem filter_nonempty {server : Option String} (proper : server ≠ some "") :
    server.filter (· ≠ "") = server := by
  cases server with
  | none => rfl
  | some text => simpa using proper

/-- With credentials for the server that is pulled from, a login goes to that server. -/
theorem behaves_pull {image : String} {name : Reference} {credentials : Option Config.Credentials}
    {server : Option String} {r : Except Fault Unit} (parsed : Reference.parse image = .ok name)
    (proper : server ≠ some "") (h : Behaves (pull image (credentials.map (Login.mk · server)) server) i es r j) :
    Fetched server credentials (name.fullName server) es r := by
  unfold pull at h
  rw [parsed] at h
  cases credentials with
  | none =>
    obtain ⟨answer, rfl, rfl⟩ := behaves_noted_command h
    exact .anonymous rfl
  | some own =>
    have home : loginServer ⟨own, server⟩ server = server := by
      rw [loginServer, filter_nonempty proper, Option.or_self]
    rcases behaves_bind (p := Machine.command _ (.login _ own.username own.password)) h with
      ⟨fault, entering, rfl⟩ | ⟨⟨⟩, k, first, rest, entering, later, rfl⟩
    · obtain ⟨answer, rfl, told, -⟩ := behaves_command entering
      obtain ⟨error, rfl, rfl⟩ := mapError_eq_error.1 told.symm
      show Fetched server (some own) _ [signIn (loginServer ⟨own, server⟩ server) own (.error error)] _
      rw [home, filter_nonempty proper]
      exact .refused rfl
    · obtain ⟨answer, rfl, told, -⟩ := behaves_command entering
      obtain rfl := mapError_eq_ok.1 told.symm
      obtain ⟨pulled, rfl, rfl⟩ := behaves_noted_command later
      show Fetched server (some own) _ [signIn (loginServer ⟨own, server⟩ server) own (.ok ()), download _ pulled] _
      rw [home]
      exact .signedIn rfl

end behaviours

theorem confined_imageId {allowed : Call → Prop} {name : String} (looks : allowed (.client (.inspect name))) :
    (imageId name).Confined allowed := by
  refine ⟨looks, fun answer => ?_⟩
  rcases answer with (text | text) | id <;> trivial

theorem confined_lookup {allowed : Call → Prop} {name : String} (looks : allowed (.client (.inspect name))) :
    (hasImage name).Confined allowed := by
  unfold hasImage
  rw [map_eq_pure_bind]
  exact confined_bind (confined_imageId looks) fun _ => confined_pure _

theorem confined_hasImage (name : String) :
    (hasImage name).Confined fun call : Call => call.isInspection = true :=
  confined_lookup rfl

/-! ### Builds -/

theorem behaves_noteIgnored {names : List String} {i j : Inside} {es : List Seen} {r : Except Fault Unit}
    (h : Behaves (noteIgnored names) i es r j) : es = [] ∧ r = .ok () := by
  induction names generalizing i with
  | nil =>
    obtain ⟨rfl, rfl, -⟩ := behaves_pure h
    exact ⟨rfl, rfl⟩
  | cons name names ih =>
    unfold noteIgnored at h
    cases known : isKnown name with
    | true =>
      rw [known] at h
      exact ih h
    | false =>
      rw [known] at h
      cases h with
      | ledger rest => exact ih rest

theorem behaves_build {image : String} {archive : Path} {options : Workflow.BuildOptions} {i j : Inside} {es : List Seen}
    {r : Except Fault Unit} (h : Behaves (build image archive options) i es r j) :
    (∃ failure fault, es = [⟨.unpack archive, .error failure⟩] ∧ r = .error fault) ∨
    ∃ (files : Archive.Unpacked) (answer : Except ClientError Unit),
      es = [⟨.unpack archive, .ok files⟩, ⟨.client (.build (request image options files)), answer⟩] ∧
        r = answer.mapError (refusal (.build image)) := by
  cases h with
  | @perform _ _ answer _ _ rest _ tail =>
    cases answer with
    | error failure =>
      left
      rcases failure with problem | target | _ | _ <;>
        exact ⟨_, _, congrArg (_ :: ·) (behaves_failed tail).1, (behaves_failed tail).2.1⟩
    | ok files =>
      right
      obtain ⟨dockerfile, forceRemove, nocache, args, others⟩ := options
      rcases behaves_bind (p := noteIgnored others.keys) tail with
        ⟨fault, noting, -⟩ | ⟨⟨⟩, k, first, later, noting, building, rfl⟩
      · cases (behaves_noteIgnored noting).2
      · obtain ⟨rfl, -⟩ := behaves_noteIgnored noting
        have noted : ∃ l, Behaves (debug s!"[Daemon] Building {image} from {archive.text}" >>= fun _ =>
            Machine.command (.build image) (.build (request image ⟨dockerfile, forceRemove, nocache, args, others⟩ files)))
            l later r j := by
          cases forceRemove with
          | true =>
            cases building with
            | ledger rest => exact ⟨_, rest⟩
          | false => exact ⟨_, building⟩
        obtain ⟨l, noted⟩ := noted
        obtain ⟨answer, rfl, rfl⟩ := behaves_noted_command noted
        exact ⟨files, answer, rfl, rfl⟩

end ImageBuild.Machine
