import ChannelAccess.CommandLine.Action

/-!
# Arguments of the command line

How the words after the program's name are read. They are taken from left to right, and the first
one that asks for help, asks for the version or does not fit decides. An option takes one value,
which follows it or is joined to it by an equals sign, and may be given once. After `--` no word is
an option.
-/

namespace ChannelAccess

set_option autoImplicit false

inductive EarlyEnd where
  | help
  | version
  /-- The words do not fit. -/
  | misuse
deriving DecidableEq

inductive Word where
  | plain
  | terminator
  | long (name : String) (value : Option String)
  | short (letters : List Char)
deriving DecidableEq

namespace Word

/-- The name and the value of a long option, told apart by the first equals sign. -/
def ofLong (characters : List Char) : Word :=
  let name := String.ofList (characters.takeWhile (· != '='))
  match characters.dropWhile (· != '=') with
  | [] => .long name none
  | _ :: value => .long name (some (String.ofList value))

def classify (word : String) : Word :=
  match word.toList with
  | ['-', '-'] => .terminator
  | '-' :: '-' :: rest => ofLong rest
  | '-' :: letter :: rest => .short (letter :: rest)
  | _ => .plain

/-- What a word asks for that is neither a value nor an option of an action. -/
def early : Word → EarlyEnd
  | .long "help" none => .help
  | .short ('h' :: _) => .help
  | _ => .misuse

end Word

inductive ActionOption where
  | user
  | channel
  | permission
deriving DecidableEq

def ActionOption.name : ActionOption → String
  | .user => "user"
  | .channel => "channel"
  | .permission => "permission"

structure GivenOptions where
  user : Option UserId
  channel : Option ChannelId
  permission : Option String
deriving DecidableEq

namespace GivenOptions

def blank : GivenOptions :=
  ⟨none, none, none⟩

/-- The options with one more. It must not be given already, and its value must be one. -/
def add (given : GivenOptions) : ActionOption → String → Except EarlyEnd GivenOptions
  | .user, value =>
      match given.user, Uuid.ofText? value with
      | none, some user => .ok { given with user := some user }
      | _, _ => .error .misuse
  | .channel, value =>
      match given.channel, Uuid.ofText? value with
      | none, some channel => .ok { given with channel := some channel }
      | _, _ => .error .misuse
  | .permission, value =>
      match given.permission with
      | none => .ok { given with permission := some value }
      | some _ => .error .misuse

def read (known : List ActionOption) (given : GivenOptions) :
    List String → Except EarlyEnd GivenOptions
  | [] => .ok given
  | word :: rest =>
      match Word.classify word with
      | .terminator => if rest.isEmpty then .ok given else .error .misuse
      | .long name value =>
          match known.find? (fun option => option.name == name), value, rest with
          | none, _, _ => .error (Word.early (.long name value))
          | some option, some joined, rest => do
              read known (← given.add option joined) rest
          | some option, none, next :: rest =>
              if Word.classify next = .plain then do
                read known (← given.add option next) rest
              else .error .misuse
          | some _, none, [] => .error .misuse
      | other => .error other.early

end GivenOptions

namespace Arguments

def require {α : Type} : Option α → Except EarlyEnd α
  | some value => .ok value
  | none => .error .misuse

/-- Reads one identifier and nothing else. After the mark that ends the options it may follow too.
-/
def readTarget : List String → Except EarlyEnd Uuid
  | [] => .error .misuse
  | word :: rest =>
      match Word.classify word with
      | .plain => do
          let target ← require (Uuid.ofText? word)
          let _ ← GivenOptions.read [] .blank rest
          return target
      | .terminator =>
          match rest with
          | [only] => require (Uuid.ofText? only)
          | _ => .error .misuse
      | other => .error other.early

def isHelpTopic : List String → Bool
  | [] => true
  | [name] =>
      ["migrate", "resolve", "check", "member", "overrides", "invalidate", "help"].contains name
  | ["invalidate", scope] => ["all", "user", "channel", "help"].contains scope
  | _ => false

def helpAbout (topic : List String) : EarlyEnd :=
  if isHelpTopic topic then .help else .misuse

def readScope : List String → Except EarlyEnd Invalidation
  | "all" :: rest => do
      let _ ← GivenOptions.read [] .blank rest
      return .all
  | "user" :: rest => .ofUser <$> readTarget rest
  | "channel" :: rest => .ofChannel <$> readTarget rest
  | "help" :: topic => .error (helpAbout ("invalidate" :: topic))
  | word :: _ => .error (Word.classify word).early
  | [] => .error .misuse

def read : List String → Except EarlyEnd Action
  | "migrate" :: rest => do
      let _ ← GivenOptions.read [] .blank rest
      return .migrate
  | "resolve" :: rest => do
      let given ← GivenOptions.read [.user, .channel] .blank rest
      return .resolve (← require given.user) (← require given.channel)
  | "check" :: rest => do
      let given ← GivenOptions.read [.user, .channel, .permission] .blank rest
      return .check (← require given.user) (← require given.channel) (← require given.permission)
  | "member" :: rest => do
      let given ← GivenOptions.read [.user] .blank rest
      return .member (← require given.user)
  | "overrides" :: rest => do
      let given ← GivenOptions.read [.channel] .blank rest
      return .overrides (← require given.channel)
  | "invalidate" :: rest => .invalidate <$> readScope rest
  | "help" :: topic => .error (helpAbout topic)
  | word :: _ =>
      match Word.classify word with
      | .long "version" none => .error .version
      | .short ('V' :: _) => .error .version
      | other => .error other.early
  | [] => .error .misuse

end Arguments

end ChannelAccess
