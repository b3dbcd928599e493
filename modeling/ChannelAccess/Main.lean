import ChannelAccess.CommandLine

/-!
# The program

Reads the arguments and the environment, and prints what a run of the command line says. It has no
client for the database or the cache server, so for it both are out of reach.
-/

set_option autoImplicit false

open ChannelAccess

def readEnvironment : IO Environment := do
  let mut found : List (String × String) := []
  for name in ["DATABASE_URL", "REDIS_URL", "PERMISSION_CACHE_BACKEND",
      "PERMISSION_CACHE_TTL_SECS", "PERMISSION_CACHE_PREFIX",
      "INVALIDATION_QUEUE_CAPACITY"] do
    if let some value ← IO.getEnv name then
      found := (name, value) :: found
  let known := found
  return fun name => (known.lookup name).map .text

/-- The servers that the program knows of: none that it could reach. -/
def surroundings : Surroundings where
  link := .down
  tables := ⟨[], [], [], [], [], [], [], 0, none⟩
  server := ⟨.blank 0, none⟩

def main (arguments : List String) : IO UInt32 := do
  let (outcome, events, _) := CommandLine.run arguments (← readEnvironment) surroundings
  for event in events do
    IO.eprintln event.toJson.compactText
  IO.print outcome.output
  match outcome.complaint with
  | some complaint => IO.eprintln complaint
  | none => if outcome.exitCode != 0 then IO.eprint CommandLine.usage
  return outcome.exitCode.toUInt32
