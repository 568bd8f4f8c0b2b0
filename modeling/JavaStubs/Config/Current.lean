import JavaStubs.World

/-!
The configuration of a world: what its file says, layered over the defaults. The file is read once
and then kept until it is forgotten.
-/
namespace JavaStubs.Config

/-- The configuration that the bytes of a file lay over the defaults. -/
def ofBytes (bytes : ByteArray) : Except Fault Fields := do
  let text ← (Utf8.decode bytes).mapError .notText
  return merge defaults (← (Toml.read text).mapError .config)

/-- The configuration in a file, or the defaults if the file is not there. -/
def load (file : Option Path) : Job Fields := do
  let some path := file | return defaults
  if ← Job.onDisk (Disk.isThere path) then
    Job.ofExcept (ofBytes (← Job.onDisk (Disk.readBytes path)))
  else return defaults

/-- The configuration, read from its file unless it was read before. -/
def current : Job Fields := do
  match (← get).config with
  | some config => return config
  | none =>
    let config ← load (← get).configFile
    modify fun world => { world with config := some config }
    return config

/-- Forgets the configuration, so that it is read again. -/
def forget : Job Unit := modify fun world => { world with config := none }

/-- The value at a path of the configuration, or a default. -/
def currentAt (path : String) (default : Value) : Job Value := do
  let config ← current
  Job.ofExcept ((valueAt config path default).mapError fun fault => .settings (.missing fault))

/-- The settings from the configuration, an environment and overrides. -/
def settings (environment : Environment) (overrides : Fields) : Job Settings := do
  let config ← current
  Job.ofExcept ((Settings.load config environment overrides).mapError .settings)

end JavaStubs.Config
