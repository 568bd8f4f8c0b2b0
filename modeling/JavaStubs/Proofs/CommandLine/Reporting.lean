import JavaStubs.CommandLine.Run
import JavaStubs.Proofs.Implementor.Archiving
import JavaStubs.Proofs.Implementor.Failing
import JavaStubs.Proofs.Text.Boundaries

/-!
What a run of the program reports when a stage fails. The report begins with one line, in which there are no line
boundaries but those of texts that it takes over as they are: names, paths and the output of tools. The
diagnostics of a compiler stand on the lines below it.
-/
namespace JavaStubs

open Text (TakesOver IsWhole)

/-! ## Texts taken over -/

/-- The texts that the wording of a cause takes over. -/
def OsCause.takenOver : OsCause → List String
  | .other _ wording => [wording]
  | _ => []

/-- The texts that the place of a violation takes over: the names of fields. -/
def Violation.takenOver (violation : Violation) : List String :=
  violation.path.filterMap fun
    | .field name => some name
    | .item _ => none

/-- The texts that the wording of violations takes over. -/
def Violation.listTakenOver (violations : List Violation) : List String :=
  (violations.take Document.listedViolations).flatMap Violation.takenOver

/-- The texts that the wording of a fault in a document takes over. -/
def Document.Fault.takenOver : Document.Fault → List String
  | .notJson path _ _ => [path.text]
  | .form violations => Violation.listTakenOver violations
  | _ => []

/-- The texts that the wording of a cause takes over. -/
def InputCause.takenOver : InputCause → List String
  | .cannotRun command fault => command :: fault.cause.takenOver
  | .cannotDescribe type detail => [type, detail]
  | .unrecognised type => [type]
  | .badMember type member _ _ => [type, member]
  | .unknownType type => [type]
  | .notInterface type => [type]
  | .privateInterface type => [type]
  | .unreadable document fault => document :: fault.cause.takenOver
  | .faulty document fault => document :: fault.takenOver
  | .malformed violations => Violation.listTakenOver violations

namespace StageFault

/-- The texts that the report of a failure takes over into its first line. -/
def takenOver : StageFault → List String
  | .invalidInput cause => cause.takenOver
  | .noDirectory directory fault => directory.text :: fault.cause.takenOver
  | .noWorkspace directory fault => directory.text :: fault.cause.takenOver
  | .noSource fault => fault.cause.takenOver
  | .rejected source _ _ => [source]
  | .noArchive archive fault => archive.text :: fault.cause.takenOver

/-- The diagnostics that a failure comes with. -/
def diagnostics : StageFault → String
  | .rejected _ _ diagnostics => diagnostics
  | _ => ""

/-- A failure without its diagnostics. -/
def bare : StageFault → StageFault
  | .rejected source exitCode _ => .rejected source exitCode ""
  | fault => fault

end StageFault

variable {taken : List String}

theorem OsCause.takesOver_message (cause : OsCause) : TakesOver cause.takenOver cause.message := by
  have wording : TakesOver cause.takenOver cause.wording := by
    cases cause with
    | other number wording => exact .head
    | _ => exact .constant rfl rfl
  exact .append (.append (.append (.constant rfl rfl) (.integer _)) (.constant rfl rfl)) wording

theorem OsFault.takesOver_message (fault : OsFault) : TakesOver fault.cause.takenOver fault.message := by
  unfold message
  refine .append fault.cause.takesOver_message ?_
  split
  · exact .append (.constant rfl rfl) (.quoted _)
  · exact .constant rfl rfl

theorem Breach.takesOver_message (breach : Breach) : TakesOver taken breach.message := by
  cases breach with
  | wrongKind value kinds =>
    have names : TakesOver taken (Text.joined ", " (kinds.map fun kind => Text.quoted kind.name)) := by
      refine .joined (.constant rfl rfl) fun text member => ?_
      obtain ⟨kind, -, rfl⟩ := List.mem_map.mp member
      exact .quoted _
    exact .append (.append value.takesOver_shown (.constant rfl rfl)) names
  | noChoice value values =>
    exact .append (.append value.takesOver_shown (.constant rfl rfl)) (Value.takesOver_shown _)
  | tooShort text least =>
    refine .append (.quoted text) ?_
    split <;> exact .constant rfl rfl
  | noDottedName text => exact .append (.append (.quoted text) (.constant rfl rfl)) (.quoted _)
  | missing name => exact .append (.quoted name) (.constant rfl rfl)
  | unexpected names =>
    have all : TakesOver taken (Text.joined ", " (names.map Text.quoted)) := by
      refine .joined (.constant rfl rfl) fun text member => ?_
      obtain ⟨name, -, rfl⟩ := List.mem_map.mp member
      exact .quoted name
    refine .append (.append (.append (.constant rfl rfl) all) ?_) (.constant rfl rfl)
    split <;> exact .constant rfl rfl

theorem Violation.takesOver_message (violation : Violation) : TakesOver violation.takenOver violation.message := by
  refine .append (.append (.gathered fun text member => ?_) (.constant rfl rfl)) violation.breach.takesOver_message
  rcases List.mem_cons.mp member with rfl | member
  · exact .constant rfl rfl
  obtain ⟨step, held, rfl⟩ := List.mem_map.mp member
  cases step with
  | field name =>
    exact .append (.constant rfl rfl) (.itself (List.mem_filterMap.mpr ⟨_, held, rfl⟩))
  | item index => exact .append (.append (.constant rfl rfl) (.number index)) (.constant rfl rfl)

theorem Document.takesOver_formMessage (violations : List Violation) :
    TakesOver (Violation.listTakenOver violations) (formMessage violations) := by
  refine .append (.constant rfl rfl) (.joined (.constant rfl rfl) fun text member => ?_)
  obtain ⟨violation, listed, rfl⟩ := List.mem_map.mp member
  exact violation.takesOver_message.mono fun source held => List.mem_flatMap.mpr ⟨violation, listed, held⟩

theorem Utf8.Fault.takesOver_message (fault : Utf8.Fault) : TakesOver taken fault.message := by
  have digit : ∀ n, n < 16 → IsVisible (Hexadecimal.digit n) := by decide
  unfold message
  refine .append (.append (.append (.constant rfl rfl) ?_) (.constant rfl rfl)) ?_
  · split
    · next byte _ =>
      have bound : byte.toNat < 256 := byte.toNat_lt
      have digits : TakesOver taken (String.ofList (Hexadecimal.ofByte byte)) := by
        refine .of_visible ?_
        rw [String.toList_ofList, Hexadecimal.ofByte, List.forall_mem_cons, List.forall_mem_singleton]
        exact ⟨digit _ (by omega), digit _ (by omega)⟩
      exact .append (.append (.append (.constant rfl rfl) digits) (.constant rfl rfl)) (.number _)
    · exact .append (.append (.append (.constant rfl rfl) (.number _)) (.constant rfl rfl)) (.number _)
  · split <;> exact .constant rfl rfl

theorem Json.Cause.takesOver_wording (cause : Json.Cause) : TakesOver taken cause.wording := by
  cases cause with
  | tooManyDigits digits =>
    exact .append (.append (.append (.constant rfl rfl) (.number digits)) (.constant rfl rfl)) (.constant rfl rfl)
  | tooDeep list =>
    refine .append (.append (.constant rfl rfl) ?_) (.constant rfl rfl)
    split <;> exact .constant rfl rfl
  | _ => exact .constant rfl rfl

theorem Json.Fault.takesOver_message (fault : Json.Fault) (text : List Char) :
    TakesOver taken (fault.message text) := by
  unfold message
  split
  · exact fault.cause.takesOver_wording
  · have counted {front behind : String} (first : TakesOver taken front) (n : Nat) (last : TakesOver taken behind) :
        TakesOver taken (front ++ toString n ++ behind) := .append (.append first (.number n)) last
    have line := fault.cause.takesOver_wording.append (.constant rfl rfl : TakesOver taken ": line ")
    exact counted (counted (counted line _ (.constant rfl rfl)) _ (.constant rfl rfl)) _ (.constant rfl rfl)

theorem Document.Fault.takesOver_message (fault : Document.Fault) : TakesOver fault.takenOver fault.message := by
  cases fault with
  | notText fault => exact fault.takesOver_message
  | notJson path text fault =>
    exact .append (.append .head (.constant rfl rfl)) (fault.takesOver_message text)
  | beyond bound => exact bound.takesOver_wording
  | form violations => exact takesOver_formMessage violations

theorem MethodDescriptor.Cause.takesOver_message (descriptor : String) (cause : MethodDescriptor.Cause) :
    TakesOver taken (cause.message descriptor) := by
  have shown : TakesOver taken (Text.quoted descriptor) := .quoted descriptor
  cases cause with
  | openClassName => exact .constant rfl rfl
  | malformed place => exact .append (shown.within (.constant rfl rfl) (.constant rfl rfl)) (.number place)
  | noDescriptor => exact .append (.constant rfl rfl) shown
  | truncated => exact .append (.constant rfl rfl) shown
  | trailing => exact .append (.constant rfl rfl) shown

theorem InputCause.takesOver_message (cause : InputCause) : TakesOver cause.takenOver cause.message := by
  cases cause with
  | cannotRun command fault =>
    exact .append (TakesOver.head.within (.constant rfl rfl) (.constant rfl rfl)) fault.takesOver_message.later
  | cannotDescribe type detail =>
    exact .append (TakesOver.head.within (.constant rfl rfl) (.constant rfl rfl)) TakesOver.head.later
  | unrecognised type => exact TakesOver.head.within (.constant rfl rfl) (.constant rfl rfl)
  | badMember type member descriptor cause =>
    have names : TakesOver [type, member] (type ++ "." ++ member) :=
      .append (.append .head (.constant rfl rfl)) TakesOver.head.later
    exact .append (.append names (.constant rfl rfl)) (cause.takesOver_message descriptor)
  | unknownType type => exact TakesOver.head.within (.constant rfl rfl) (.constant rfl rfl)
  | notInterface type => exact TakesOver.head.within (.constant rfl rfl) (.constant rfl rfl)
  | privateInterface type => exact TakesOver.head.within (.constant rfl rfl) (.constant rfl rfl)
  | unreadable document fault =>
    exact .append (TakesOver.head.within (.constant rfl rfl) (.constant rfl rfl)) fault.takesOver_message.later
  | faulty document fault =>
    exact .append (TakesOver.head.within (.constant rfl rfl) (.constant rfl rfl)) fault.takesOver_message.later
  | malformed violations => exact Document.takesOver_formMessage violations

/-! ## Failures of stages -/

theorem append_withDiagnostics (front cause diagnostics : String) :
    front ++ withDiagnostics cause diagnostics = withDiagnostics (front ++ cause) diagnostics := by
  unfold withDiagnostics
  split
  · rfl
  · simp only [String.append_assoc]

namespace StageFault

theorem takesOver_cause (fault : StageFault) : TakesOver fault.takenOver fault.bare.cause := by
  cases fault with
  | invalidInput cause => exact cause.takesOver_message
  | noDirectory directory fault =>
    exact .append (TakesOver.head.within (.constant rfl rfl) (.constant rfl rfl)) fault.takesOver_message.later
  | noWorkspace directory fault =>
    exact .append (TakesOver.head.within (.constant rfl rfl) (.constant rfl rfl)) fault.takesOver_message.later
  | noSource fault => exact .append (.constant rfl rfl) fault.takesOver_message
  | rejected source exitCode diagnostics =>
    have front : TakesOver [source] ("Could not compile " ++ source ++ " (exit code ") :=
      TakesOver.head.within (.constant rfl rfl) (.constant rfl rfl)
    exact .append (.append front (.integer exitCode)) (.constant rfl rfl)
  | noArchive archive fault =>
    exact .append (TakesOver.head.within (.constant rfl rfl) (.constant rfl rfl)) fault.takesOver_message.later

theorem takesOver_message (fault : StageFault) : TakesOver fault.takenOver fault.bare.message := by
  have named : TakesOver fault.takenOver fault.bare.kind.name := by
    cases fault.bare.kind <;> exact .constant rfl rfl
  exact .append (.append named (.constant rfl rfl)) fault.takesOver_cause

/-- The diagnostics of a failure stand below the report of it without them. -/
theorem message_eq_withDiagnostics (fault : StageFault) :
    fault.message = withDiagnostics fault.bare.message fault.diagnostics := by
  cases fault with
  | rejected source exitCode diagnostics =>
    generalize told : s!"Could not compile {source} (exit code {exitCode})" = words
    have named (given : String) : (rejected source exitCode given).message =
        StageKind.compilation.report (withDiagnostics words given) := by
      rw [← told]
      rfl
    have plain : withDiagnostics words "" = words := rfl
    rw [bare, named, named, plain, StageFault.diagnostics, StageKind.report, StageKind.report, append_withDiagnostics]
  | _ => rfl

/-- The first line that the program prints of a failure. -/
def headline (fault : StageFault) : String := "error: " ++ fault.bare.message

/-- The lines that the program prints below it: the diagnostics, without the blanks at their end. -/
def linesBelow (fault : StageFault) : List (List Char) :=
  if fault.diagnostics.isEmpty then []
  else Text.lines (Text.dropTrailing Text.isBlank fault.diagnostics.toList ++ ['\n'])

theorem linesBelow_of_kind {fault : StageFault} (other : fault.kind ≠ .compilation) : fault.linesBelow = [] := by
  cases fault with
  | rejected source exitCode diagnostics => exact absurd rfl other
  | _ => rfl

theorem takesOver_headline (fault : StageFault) : TakesOver fault.takenOver fault.headline :=
  .append (.constant rfl rfl) fault.takesOver_message

theorem error_eq_withDiagnostics (fault : StageFault) :
    "error: " ++ fault.message = withDiagnostics fault.headline fault.diagnostics := by
  rw [message_eq_withDiagnostics, append_withDiagnostics, headline]

theorem lines_error {fault : StageFault} (whole : ∀ source ∈ fault.takenOver, IsWhole source.toList) :
    Text.lines ("error: " ++ fault.message ++ "\n").toList = fault.headline.toList :: fault.linesBelow := by
  have first := fault.takesOver_headline.isWhole whole
  have newline : ("\n" : String).toList = ['\n'] := rfl
  rw [error_eq_withDiagnostics, withDiagnostics, linesBelow]
  split
  · rw [String.toList_append, newline, Text.lines_append first, Text.lines]
  · simp only [String.toList_append, newline, List.append_assoc, String.toList_ofList, List.cons_append,
      Text.lines_append first, List.nil_append]

end StageFault

/-! ## Runs -/

namespace Command

open Implementor (shape nowhere)

variable {texts : List String} {command : Command}

theorem run_of_reported (tools : Tools) {world : World} {fault : Fault} (accepted : parse texts = .ok command)
    (reported : isReported fault = true) (failed : Ends (command.execute tools) world fun r _ => r = .error fault) :
    Ends (command.execute tools) world fun _ after => run texts tools world =
      (⟨.ok 1, "", logText command.verbose (after.log.drop world.log.length) ++
        ("error: " ++ fault.message ++ "\n")⟩, after) := by
  obtain ⟨r, after, ran⟩ := Ends.exists_run (command.execute tools) world
  rw [Ends.of_run ran] at failed ⊢
  subst failed
  rw [run, accepted]
  simp only [ran, reported, if_true]
  rfl

/-- A run in which a stage fails ends with the exit code 1 and prints, behind the log, a report of the failure.
Its first line takes over texts and brings no other line boundaries; the diagnostics of a compiler, which no
other failure has, are the lines below it. -/
theorem run_reports (tools : Tools) {world : World} {fault : StageFault} (accepted : parse texts = .ok command)
    (failed : Ends (command.execute tools) world fun r _ => r = .error (.stage fault)) :
    Ends (command.execute tools) world (fun _ after => run texts tools world =
      (⟨.ok 1, "", logText command.verbose (after.log.drop world.log.length) ++
        ("error: " ++ fault.message ++ "\n")⟩, after)) ∧
    "error: " ++ fault.message = withDiagnostics fault.headline fault.diagnostics ∧
    TakesOver fault.takenOver fault.headline ∧
    ((∀ source ∈ fault.takenOver, IsWhole source.toList) →
      Text.lines ("error: " ++ fault.message ++ "\n").toList = fault.headline.toList :: fault.linesBelow) ∧
    (fault.kind ≠ .compilation → fault.linesBelow = []) := by
  have told : Fault.message (.stage fault) = fault.message := rfl
  have ran := run_of_reported tools accepted rfl failed
  rw [told] at ran
  exact ⟨ran, fault.error_eq_withDiagnostics, fault.takesOver_headline, StageFault.lines_error,
    StageFault.linesBelow_of_kind⟩

/-! ### Two failures -/

/-- The command that writes the source file for a type that nobody knows. -/
def squareSource : Command := ⟨"geo.Square", .source (some "."), [], [], none, none, none, none, false⟩

/-- The command that builds the archive for a known interface. -/
def shapeArchive : Command := ⟨"geo.Shape", .archive (some "o.jar"), [], [], none, none, none, none, false⟩

/-- Tools that know one interface, with a compiler that rejects every source file. -/
def rejecting : Tools where
  introspector := fun _ _ => Catalog.introspector (.ofTypes [shape])
  compile := fun _ => return ⟨1, "", "ShapeImpl.java:1: error\n1 error\n"⟩

/-- The name that a job ends on because nobody knows a type of that name. -/
def unknown? {α : Type} : Except Fault α → Option String
  | .error (.stage (.invalidInput (.unknownType type))) => some type
  | _ => none

theorem eq_of_unknown? {α : Type} {r : Except Fault α} {type : String} (found : unknown? r = some type) :
    r = .error (.stage (.invalidInput (.unknownType type))) := by
  unfold unknown? at found
  split at found
  · rw [Option.some.inj found]
  · cases found

theorem run_reports_unknown :
    parse ["source", "geo.Square"] = .ok squareSource ∧
    Ends (squareSource.execute rejecting) nowhere (fun r _ =>
      r = .error (.stage (.invalidInput (.unknownType "geo.Square")))) ∧
    (run ["source", "geo.Square"] rejecting nowhere).1.code = .ok 1 ∧
    Text.lines (run ["source", "geo.Square"] rejecting nowhere).1.stderr.toList =
      ["error: InvalidInput: Unknown type 'geo.Square'".toList] := by
  have accepted : parse ["source", "geo.Square"] = .ok squareSource := eq_ok_of_toOption (by decide +kernel)
  have ended : Ends (squareSource.execute rejecting) nowhere fun r after =>
      unknown? r = some "geo.Square" ∧ after.log.isEmpty = true := by
    unfold Ends
    decide +kernel
  have failed := ended.mono fun r _ told => eq_of_unknown? told.1
  have whole : ∀ source ∈ (StageFault.invalidInput (.unknownType "geo.Square")).takenOver,
      IsWhole source.toList := by
    rintro _ (_ | ⟨_, ⟨⟩⟩)
    exact Text.isWhole_constant rfl rfl
  obtain ⟨reports, -, -, lines, below⟩ := run_reports rejecting accepted failed
  obtain ⟨r, after, ran⟩ := Ends.exists_run (squareSource.execute rejecting) nowhere
  rw [Ends.of_run ran] at reports ended
  have silent : logText squareSource.verbose (after.log.drop nowhere.log.length) = "" := by
    rw [List.isEmpty_iff.mp ended.2]
    rfl
  rw [reports, silent]
  refine ⟨accepted, failed, rfl, ?_⟩
  rw [String.empty_append, lines whole, below (by decide)]
  rfl

/-- What a job ends on when a source file is rejected: its name, the exit code and the diagnostics. -/
def rejection? {α : Type} : Except Fault α → Option (String × Int × String)
  | .error (.stage (.rejected source exitCode diagnostics)) => some (source, exitCode, diagnostics)
  | _ => none

theorem eq_of_rejection? {α : Type} {r : Except Fault α} {source diagnostics : String} {exitCode : Int}
    (found : rejection? r = some (source, exitCode, diagnostics)) :
    r = .error (.stage (.rejected source exitCode diagnostics)) := by
  unfold rejection? at found
  split at found
  · cases found
    rfl
  · cases found

/-- A compiler that rejects a source file with two lines of diagnostics makes a report of three lines. -/
theorem rejection_spread :
    parse ["jar", "geo.Shape", "--jar", "o.jar"] = .ok shapeArchive ∧
    Ends (shapeArchive.execute rejecting) nowhere fun r after =>
      let fault := StageFault.rejected "ShapeImpl.java" 1 "ShapeImpl.java:1: error\n1 error"
      r = .error (.stage fault) ∧
      run ["jar", "geo.Shape", "--jar", "o.jar"] rejecting nowhere =
        (⟨.ok 1, "", logText false (after.log.drop nowhere.log.length) ++ ("error: " ++ fault.message ++ "\n")⟩,
          after) ∧
      Text.lines ("error: " ++ fault.message ++ "\n").toList =
        ["error: CompilationFailure: Could not compile ShapeImpl.java (exit code 1)".toList,
          "ShapeImpl.java:1: error".toList, "1 error".toList] := by
  have accepted : parse ["jar", "geo.Shape", "--jar", "o.jar"] = .ok shapeArchive :=
    eq_ok_of_toOption (by decide +kernel)
  have rejected : Ends (shapeArchive.execute rejecting) nowhere fun r _ =>
      rejection? r = some ("ShapeImpl.java", 1, "ShapeImpl.java:1: error\n1 error") := by
    unfold Ends
    decide +kernel
  have failed := rejected.mono fun r _ told => eq_of_rejection? told
  have whole : ∀ source ∈ (StageFault.rejected "ShapeImpl.java" 1 "ShapeImpl.java:1: error\n1 error").takenOver,
      IsWhole source.toList := by
    rintro _ (_ | ⟨_, ⟨⟩⟩)
    exact Text.isWhole_constant rfl rfl
  refine ⟨accepted, (failed.and (run_of_reported rejecting accepted rfl failed)).mono fun r after both => ?_⟩
  have below : (StageFault.rejected "ShapeImpl.java" 1 "ShapeImpl.java:1: error\n1 error").linesBelow =
      ["ShapeImpl.java:1: error".toList, "1 error".toList] := by decide +kernel
  refine ⟨both.1, both.2, ?_⟩
  rw [StageFault.lines_error whole, below]
  rfl

end Command

end JavaStubs
