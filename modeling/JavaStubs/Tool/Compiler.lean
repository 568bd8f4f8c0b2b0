import JavaStubs.World

/-!
Compilers. A compiler turns a source file, with a class path, into class files beside it and an
outcome. `command` is the compiler that runs an external tool; `compile` runs any compiler and
logs its failures.
-/
namespace JavaStubs

/-- A way to compile a source file against a class path. -/
abbrev Compiler := List Path → Path → Job Outcome

namespace Compiler

/-- The part of the program that log records of compilers come from. -/
def source : String := "ports.compiler_port"

/-- The exit code that stands for a tool that could not be started. -/
def toolMissing : Int := 127

/-- The arguments of a compiler run. -/
def arguments (command : String) (extra : List String) (classpath : List Path) (file : Path) :
    List String :=
  [command] ++ extra ++
    (if classpath.isEmpty then [] else ["-cp", Text.joined ":" (classpath.map Path.text)]) ++
    [file.text]

/-- The compiler that runs a command with extra arguments; `tool` is what a run does. -/
def command (tool : List String → Job Outcome) (name : String) (extra : List String) : Compiler :=
  fun classpath file => do
    let arguments := arguments name extra classpath file
    Job.record .debug source ("running " ++ Text.joined " " arguments)
    Job.noteRun .compiler arguments
    tryCatch (tool arguments) fun
      | .file (.os fault) => return ⟨toolMissing, "", s!"{name}: {fault.message}"⟩
      | fault => throw fault

/-- Compiles a source file, and logs it when the compiler fails. -/
def compile (compiler : Compiler) (classpath : List Path) (file : Path) : Job Outcome := do
  let outcome ← compiler classpath file
  unless outcome.ok do
    Job.record .warning source s!"compiler exited with {outcome.code} for {file.text}"
  return outcome

end Compiler
end JavaStubs
