import JavaStubs.Files.Fault
import JavaStubs.Text.Utf8
import JavaStubs.Text.Words

/-!
What the run of an external tool leaves behind, the environment that tools are given, and the
diagnostics that a compiler run is judged by.
-/
namespace JavaStubs

/-- The end of a tool's run: the exit code and the texts that it printed. -/
structure Outcome where
  code : Int
  stdout : String
  stderr : String
  deriving DecidableEq, Repr

namespace Outcome

/-- Whether a run succeeded. -/
def ok (outcome : Outcome) : Bool := outcome.code == 0

/-- What a run has to say: its error text and then its output, each trimmed and left out when
nothing remains. -/
def diagnostics (outcome : Outcome) : String :=
  Text.joined "\n"
    ([Text.trimmed outcome.stderr, Text.trimmed outcome.stdout].filter (!·.isEmpty))

/-- The detail of a failed run: the error text, or the output when there is none; trimmed. -/
def detail (outcome : Outcome) : String :=
  Text.trimmed (if outcome.stderr.isEmpty then outcome.stdout else outcome.stderr)

end Outcome

/-- Why the run of a tool has no outcome. -/
inductive ToolFault where
  /-- The operating system refuses to start it. -/
  | refused (fault : FileFault)
  /-- What it printed is no text. -/
  | notText (fault : Utf8.Fault)
  /-- There is no command to be run. -/
  | noCommand
  /-- A variable has a name that no variable can have. -/
  | badVariable
  deriving Repr

/-- The wording of a missing outcome. -/
def ToolFault.message : ToolFault → String
  | .refused fault => fault.message
  | .notText fault => fault.message
  | .noCommand => "list index out of range"
  | .badVariable => "illegal environment variable name"

/-- Variables of an environment. -/
abbrev Environment := List (String × String)

namespace Environment

/-- The environment with a variable set, in its old place if it had one. -/
def set (name value : String) : Environment → Environment
  | [] => [(name, value)]
  | (key, old) :: rest =>
    if key == name then (key, value) :: rest else (key, old) :: set name value rest

/-- The environment with variables set one after another. -/
def setAll (environment others : Environment) : Environment :=
  others.foldl (fun done (name, value) => set name value done) environment

/-- The variables that keep the messages of tools in one language. -/
def unlocalised : Environment := [("LC_ALL", "C"), ("LANG", "C")]

/-- The environment of a tool: that of the program, without a language of its own, and with the
caller's variables. -/
def forTool (environment overrides : Environment) : Environment :=
  (environment.setAll unlocalised).setAll overrides

/-- Reading a variable back after setting one. -/
theorem lookup_set (name other value : String) (environment : Environment) :
    (set name value environment).lookup other =
      if other = name then some value else environment.lookup other := by
  induction environment with
  | nil =>
    by_cases h : other = name
    · simp [set, h]
    · have : (other == name) = false := by simp [h]
      simp [set, List.lookup_cons, h, this]
  | cons entry rest ih =>
    obtain ⟨key, old⟩ := entry
    by_cases hk : key = name
    · subst hk
      by_cases h : other = key
      · simp [set, h]
      · have : (other == key) = false := by simp [h]
        simp [set, List.lookup_cons, h, this]
    · have hne : (key == name) = false := by simp [hk]
      simp only [set, hne, Bool.false_eq_true, if_false, List.lookup_cons]
      by_cases h : other = key
      · subst h; simp [hk]
      · have : (other == key) = false := by simp [h]
        simp [this, ih]

end Environment
end JavaStubs
