import JavaStubs.Introspection.Basic
import JavaStubs.Proofs.Implementor.Noting
import JavaStubs.Proofs.Implementor.Preparing
import JavaStubs.Proofs.Journal.Appending
import JavaStubs.Proofs.Workspace.Faults

/-!
How asking for an archive can fail. Whatever the introspector, the compiler, the settings, the files and
the journal are, it ends in the archive's path, in the failure of a stage, or in one of a few faults of
which each has a cause of its own.
-/
namespace JavaStubs.Implementor

open Fault (IsKnown IsRaw)
open Job (Fails FailsRaw)
open Implementation (packageNames className)

variable {implementor : Implementor} {settings : Settings} {described : Interface}
  {place workspace file : Path} {world : World} {unspelled : Prop}

/-! ## Stages -/

/-- The texts that the names of files are made of. -/
def texts (settings : Settings) (described : Interface) (place : Path) : List String :=
  [place.text, settings.tempPrefix, settings.implSuffix, settings.sourceExtension,
    settings.classExtension, described.package, described.simpleName]

/-- There is NUL in one of the texts that the names of files are made of. -/
def UsesNul (settings : Settings) (described : Interface) (place : Path) : Prop :=
  ∃ text ∈ texts settings described place, Path.hasNul text = true

theorem hasNul_of_pathBelow {names : List String}
    (nul : Path.hasNul (Disk.pathBelow place names).text = true) :
    Path.hasNul place.text = true ∨ ∃ name ∈ names, Path.hasNul name = true := by
  induction names generalizing place with
  | nil => exact .inl nul
  | cons name names ih =>
    rcases ih nul with first | ⟨other, member, nul⟩
    · rcases Path.hasNul_of_child first with nul | nul
      · exact .inl nul
      · exact .inr ⟨name, List.mem_cons_self, nul⟩
    · exact .inr ⟨other, List.mem_cons_of_mem name member, nul⟩

theorem hasNul_of_destination
    (nul : Path.hasNul (destination settings described workspace).text = true) :
    Path.hasNul workspace.text = true ∨ UsesNul settings described place := by
  have used {text : String} (nul : Path.hasNul text = true)
      (member : text ∈ texts settings described place) :
      Path.hasNul workspace.text = true ∨ UsesNul settings described place :=
    .inr ⟨text, member, nul⟩
  rw [destination_eq] at nul
  rcases Path.hasNul_of_child nul with nul | nul
  · rcases hasNul_of_pathBelow nul with nul | ⟨name, member, nul⟩
    · exact .inl nul
    · unfold packageNames at member
      split at member
      · cases member
      · exact used (Path.hasNul_of_mem_fieldsOf member nul) (by simp [texts])
  · unfold sourceName className at nul
    rw [Path.hasNul_append, Path.hasNul_append, Bool.or_eq_true, Bool.or_eq_true] at nul
    rcases nul with (nul | nul) | nul
    · exact used nul (by simp [texts])
    · exact used nul (by simp [texts])
    · exact used nul (by simp [texts])

/-- Writing the source file fails as a stage does, or with the name of the file. -/
theorem writeSource_raw
    (spelled : Path.hasNul (destination settings described workspace).text = true → unspelled) :
    FailsRaw unspelled (· = destination settings described workspace)
      (writeSource settings described workspace) := by
  have resolved : Fails unspelled (· = destination settings described workspace)
      (resolveDestination settings described workspace) := by
    refine Yields.bind (FailsRaw.onDisk (Disk.concerns_makeDirectories _) fun nul => ?_).refused
      fun _ _ => Yields.pure rfl
    exact spelled (Path.hasNul_of_parent nul)
  refine Yields.bind resolved.raw fun file same => ?_
  subst same
  refine Yields.bind (FailsRaw.onDisk (Disk.concerns_write _ _) spelled) fun _ _ => ?_
  exact Yields.bind (Yields.record _ _ _) fun _ _ => Yields.pure rfl

theorem writeSource_fails
    (of_workspace : Path.hasNul workspace.text = true → UsesNul settings described place) :
    FailsRaw (UsesNul settings described place)
      (fun file => Path.hasNul file.text = true → UsesNul settings described place)
      (writeSource settings described workspace) := by
  have spelled (nul : Path.hasNul (destination settings described workspace).text = true) :
      UsesNul settings described place :=
    (hasNul_of_destination nul).elim of_workspace id
  refine Yields.mono (writeSource_raw spelled) (fun file same => ?_) fun _ known => known
  subst same
  exact spelled

/-- What a compilation can end in besides the failure of its stage: the fault that the compiler raises, or
that of an extension that can take the place of no suffix. -/
inductive Miscompiled (implementor : Implementor) (described : Interface) (workspace file : Path)
    (world : World) : Fault → Prop where
  | raised {fault : Fault} (raised : Ends (implementor.compiler (classpath described workspace) file)
      world fun r _ => r = .error fault) : Miscompiled implementor described workspace file world fault
  | suffix (unfit : Path.isSuffix implementor.settings.classExtension = false) :
      Miscompiled implementor described workspace file world (.noSuffix implementor.settings.classExtension)

theorem compileSource_fails
    (of_file : Path.hasNul file.text = true → UsesNul implementor.settings described place) :
    Ends (implementor.compileSource described workspace file) world fun r _ => IsOutcome
      (fun classFile => Path.hasNul classFile.text = true → UsesNul implementor.settings described place)
      (fun fault => (∃ failure, fault = .stage failure) ∨
        implementor.Miscompiled described workspace file world fault) r := by
  obtain ⟨r, compiled, run⟩ :=
    Ends.exists_run (implementor.compiler (classpath described workspace) file) world
  unfold compileSource Compiler.compile
  rw [Ends.bind_iff, Ends.bind_iff, Ends.of_run run]
  cases r with
  | error fault => exact .inr (.raised ((Ends.of_run run).mpr rfl))
  | ok outcome =>
    rw [onward_ok]
    by_cases ok : outcome.ok = true
    · rw [if_pos ok, Ends.pure_iff, onward_ok, if_pos ok, Ends.ofExcept_iff]
      unfold classFileOf
      split
      · intro nul
        rcases Path.hasNul_of_withSuffix nul with nul | nul
        · exact of_file nul
        · exact ⟨_, by simp [texts], nul⟩
      · next unfit => exact .inr (.suffix (by simpa using unfit))
    · rw [if_neg ok, Ends.bind_iff, Ends.record_iff, onward_ok, Ends.pure_iff, onward_ok, if_neg ok]
      exact .inl ⟨_, rfl⟩

/-- The name of an entry, as an archive keeps it, takes more bytes than it can record. -/
def IsLong (entry : String) : Prop :=
  ArchiveWriter.nameLimit < (ArchiveEntry.packed entry .empty).name.utf8ByteSize

/-- What the packaging of a class file ends in besides the failure of its stage. -/
def Mispackaged (unspelled : Prop) (entry : String) (fault : Fault) : Prop :=
  fault.IsKnown unspelled ∨ fault = .entryNameSize ∧ IsLong entry

/-- Packaging, or a part of it, ends in such a fault if it fails, or in a refusal of the operating system. -/
def PackagesRaw {α : Type} (unspelled : Prop) (entry : String) (job : Job α) : Prop :=
  Yields (fun _ => True) (fun _ => True)
    (fun fault => (∃ refusal, fault = .file (.os refusal)) ∨ Mispackaged unspelled entry fault) job

variable {entry : String} {classFile archive : Path} {writer : ArchiveWriter}

theorem packagesRaw_of_fails {α : Type} {job : Job α} (fails : FailsRaw unspelled (fun _ => True) job) :
    PackagesRaw unspelled entry job :=
  Yields.mono fails (fun _ holds => holds) fun _ known => known.imp_right .inl

theorem write_fails (writer : ArchiveWriter) (content : Content) :
    FailsRaw unspelled (fun _ => True) (Job.onDisk (writer.write content)) := by
  have concerned : Disk.Concerns ⟨.root, []⟩ (writer.write content) := by
    refine .bind .get fun disk => ?_
    split
    · exact Disk.concerns_putFile _
    · exact .pure ()
  exact FailsRaw.onDisk concerned fun nul => absurd nul (by decide)

theorem close_packages (writer : ArchiveWriter) : PackagesRaw unspelled entry writer.close := by
  refine packagesRaw_of_fails ?_
  unfold ArchiveWriter.close
  split
  · exact Yields.bind (write_fails writer _) fun _ _ => Yields.pure trivial
  · exact Yields.pure trivial

theorem appended_packages (is_open : writer.isOpen = true) (bytes : ByteArray) :
    PackagesRaw unspelled entry (Job.ofExcept (writer.appended entry bytes)) := by
  intro world _
  rw [Ends.ofExcept_iff]
  unfold ArchiveWriter.appended
  rw [is_open, if_neg (by simp)]
  split
  · next long => exact ⟨trivial, .inr (.inr ⟨rfl, long⟩)⟩
  · exact ⟨trivial, trivial⟩

theorem addFile_packages (is_open : writer.isOpen = true)
    (of_class : Path.hasNul classFile.text = true → unspelled) :
    PackagesRaw unspelled entry (writer.addFile entry classFile) := by
  have bytes_read : PackagesRaw unspelled entry (Job.onDisk (Disk.readBytes classFile)) :=
    packagesRaw_of_fails (FailsRaw.onDisk (Disk.concerns_readBytes classFile) of_class)
  refine Yields.bind bytes_read fun bytes _ => Yields.bind (appended_packages is_open bytes) fun _ _ => ?_
  exact Yields.bind (packagesRaw_of_fails (write_fails writer _)) fun _ _ => Yields.pure trivial

theorem writeArchive_packages (of_archive : Path.hasNul archive.text = true → unspelled)
    (of_class : Path.hasNul classFile.text = true → unspelled) :
    PackagesRaw unspelled entry (writeArchive entry classFile archive) := by
  have written : PackagesRaw unspelled entry (Job.onDisk (Disk.write archive (.records []))) :=
    packagesRaw_of_fails (FailsRaw.onDisk (Disk.concerns_write _ _) of_archive)
  have opened : Yields _ (fun writer => writer.isOpen = true) _ (ArchiveWriter.open_ archive) :=
    Yields.bind written fun _ _ => Yields.pure rfl
  refine Yields.bind opened fun writer is_open => ?_
  refine Yields.bind (Yields.attempt (addFile_packages is_open of_class)) fun r outcome => ?_
  cases r with
  | ok filled => exact Yields.bind (close_packages filled) fun _ _ => Yields.pure trivial
  | error fault => exact Yields.bind (close_packages writer) fun _ _ => Yields.throw outcome

theorem discardPartial_fails (of_archive : Path.hasNul archive.text = true → unspelled) :
    Fails unspelled (fun _ => True) (discardPartial archive) := by
  refine Yields.tryCatch (FailsRaw.onDisk (Disk.concerns_removeFile archive) of_archive)
    fun fault known => ?_
  split
  · exact Yields.pure trivial
  · exact fun _ _ => ⟨trivial, trivial⟩
  · next other =>
    rcases known with ⟨refusal, rfl⟩ | known
    · exact absurd rfl (other refusal)
    · exact Yields.throw known

theorem package_yields (of_archive : Path.hasNul archive.text = true → unspelled)
    (of_class : Path.hasNul classFile.text = true → unspelled) :
    Yields (fun _ => True) (fun _ => True) (Mispackaged unspelled entry)
      (package entry classFile archive) := by
  refine Yields.tryCatch (writeArchive_packages of_archive of_class) fun fault known => ?_
  split
  · refine Yields.bind (Yields.mono (discardPartial_fails of_archive) (fun _ holds => holds)
      fun _ => .inl) fun _ _ => ?_
    exact Yields.throw (.inl (.stage _))
  · next other =>
    rcases known with ⟨refusal, rfl⟩ | known
    · exact absurd rfl (other refusal)
    · exact Yields.throw known

/-! ## Building -/

section Building

-- a job in a goal would be evaluated when a rule is applied to the goal
attribute [local irreducible] Ends

/-- The source file of a type in a workspace, which the stage of compilation begins with. -/
def writtenSource (settings : Settings) (described : Interface) (workspace : Path) : Job Path :=
  Job.refused (writeSource settings described workspace) fun fault => .stage (.noSource fault)

theorem prepare_eq (implementor : Implementor) (described : Interface) (workspace : Path) :
    implementor.prepare described workspace = writtenSource implementor.settings described workspace >>=
      fun file => implementor.compileSource described workspace file := rfl

/-- The class file of a type, prepared in a workspace and packaged. -/
def stages (implementor : Implementor) (described : Interface) (place workspace : Path) : Job Unit :=
  implementor.prepare described workspace >>= fun classFile =>
    package (entryName implementor.settings described) classFile place

/-- The workspace beside an archive, and the source file in it when it has been written. -/
def sourcedBeside (implementor : Implementor) (described : Interface) (place : Path) :
    Job (Path × Path) :=
  Workspace.entered place implementor.settings.tempPrefix fun workspace => do
    return (workspace, ← writtenSource implementor.settings described workspace)

/-- The workspace beside an archive when all stages in it have ended. -/
def vacatedBeside (implementor : Implementor) (described : Interface) (place : Path) : Job Path :=
  Workspace.vacated place implementor.settings.tempPrefix (implementor.stages described place)

/-- What building an archive can end in besides the failure of a stage. -/
inductive Misbuilt (implementor : Implementor) (described : Interface) (place : Path) (world : World) :
    Fault → Prop where
  /-- The compilation of the source file ends in such a fault. -/
  | compilation {fault : Fault} {workspace file : Path}
      (compiled : Ends (implementor.sourcedBeside described place) world fun r ready =>
        r = .ok (workspace, file) ∧ implementor.Miscompiled described workspace file ready fault) :
      Misbuilt implementor described place world fault
  /-- There is NUL in a text that names are made of. -/
  | nul (used : UsesNul implementor.settings described place) :
      Misbuilt implementor described place world (.file .nulInName)
  /-- The name of the class is too long for an archive. -/
  | entryName (long : IsLong (entryName implementor.settings described)) :
      Misbuilt implementor described place world .entryNameSize
  /-- Once the stages have ended, the operating system refuses to look at the workspace. -/
  | workspace {workspace : Path} {refusal : OsFault}
      (left : Ends (implementor.vacatedBeside described place) world fun r after =>
        r = .ok workspace ∧
          Ends (Disk.probe workspace) after.disk fun r _ => r = .error (.os refusal)) :
      Misbuilt implementor described place world (.file (.os refusal))
  /-- Once the stages have ended, there is NUL in the name of a file. -/
  | fileName {workspace : Path}
      (left : Ends (implementor.vacatedBeside described place) world fun r after =>
        r = .ok workspace ∧ ¬ after.disk.tree.IsSpelled) :
      Misbuilt implementor described place world (.file .nulInName)

/-- The failure of a stage, or one of those faults. -/
def IsEnd (implementor : Implementor) (described : Interface) (place : Path) (world : World)
    (fault : Fault) : Prop :=
  (∃ failure, fault = .stage failure) ∨ implementor.Misbuilt described place world fault

theorem IsEnd.of_known {fault : Fault}
    (known : fault.IsKnown (UsesNul implementor.settings described place)) :
    implementor.IsEnd described place world fault := by
  cases known with
  | stage failure => exact .inl ⟨failure, rfl⟩
  | nul there => exact .inr (.nul there)

/-- The stages in a workspace end in the failure of one of them, in a fault of names, or in one of
compiling the source file. -/
theorem stages_faults
    (of_place : Path.hasNul place.text = true → UsesNul implementor.settings described place)
    (of_workspace : Path.hasNul workspace.text = true → UsesNul implementor.settings described place) :
    Ends (implementor.stages described place workspace) world fun r _ => IsOutcome (fun _ => True)
      (fun fault => (∃ failure, fault = .stage failure) ∨
        Mispackaged (UsesNul implementor.settings described place)
          (entryName implementor.settings described) fault ∨
        ∃ file, Ends (writtenSource implementor.settings described workspace) world fun r ready =>
          r = .ok file ∧ implementor.Miscompiled described workspace file ready fault) r := by
  have fails : Fails (UsesNul implementor.settings described place) _
      (writtenSource implementor.settings described workspace) := (writeSource_fails of_workspace).refused
  replace fails := fails world trivial
  obtain ⟨r, written, wrote⟩ :=
    Ends.exists_run (writtenSource implementor.settings described workspace) world
  rw [Ends.of_run wrote] at fails
  unfold stages
  rw [prepare_eq, Ends.bind_iff, Ends.bind_iff, Ends.of_run wrote]
  cases r with
  | error fault => exact .inr (.inl (.inl fails.2))
  | ok file =>
    rw [onward_ok]
    refine (compileSource_fails fails.2).mono fun r compiled ends => ?_
    cases r with
    | error fault =>
      exact ends.imp_right fun miscompiled => .inr ⟨file, (Ends.of_run wrote).mpr ⟨rfl, miscompiled⟩⟩
    | ok classFile =>
      rw [onward_ok]
      refine (package_yields of_place ends compiled trivial).mono fun r _ packaged => ?_
      cases r with
      | ok _ => trivial
      | error fault => exact .inr (.inl packaged.2)

/-- The fault of releasing a workspace when its stages have ended. -/
theorem misbuilt_of_vacated {fault : Fault}
    (of_workspace : Ends (implementor.vacatedBeside described place) world fun r _ => ∀ workspace,
      r = .ok workspace → Path.hasNul workspace.text = true →
        UsesNul implementor.settings described place)
    (left : Ends (implementor.vacatedBeside described place) world fun r after => ∃ workspace,
      r = .ok workspace ∧
        ((∃ refusal, fault = .file (.os refusal) ∧
            Ends (Disk.probe workspace) after.disk fun r _ => r = .error (.os refusal)) ∨
          fault = .file .nulInName ∧
            ¬ (Path.hasNul workspace.text = false ∧ after.disk.tree.IsSpelled))) :
    implementor.Misbuilt described place world fault := by
  obtain ⟨r, after, run⟩ := Ends.exists_run (implementor.vacatedBeside described place) world
  rw [Ends.of_run run] at of_workspace left
  obtain ⟨workspace, rfl, ⟨refusal, rfl, refused⟩ | ⟨rfl, unspelled⟩⟩ := left
  · exact .workspace ((Ends.of_run run).mpr ⟨rfl, refused⟩)
  · by_cases spelled : after.disk.tree.IsSpelled
    · refine .nul (of_workspace workspace rfl ?_)
      simpa [spelled] using unspelled
    · exact .fileName ((Ends.of_run run).mpr ⟨rfl, spelled⟩)

/-- Building an archive ends in the failure of a stage, or in a fault with one of the other causes. -/
theorem buildArchive_faults (implementor : Implementor) (described : Interface) (world : World)
    (absolute : place.isAbsolute = true) :
    Ends (implementor.buildArchive described place) world fun r _ =>
      IsOutcome (fun _ => True) (implementor.IsEnd described place world) r := by
  have of_place (nul : Path.hasNul place.text = true) :
      UsesNul implementor.settings described place := ⟨_, by simp [texts], nul⟩
  have made : Fails (UsesNul implementor.settings described place) _
      (Workspace.acquire place implementor.settings.tempPrefix) :=
    Workspace.acquire_fails absolute of_place fun nul => ⟨_, by simp [texts], nul⟩
  replace made := made world trivial
  rw [buildArchive_eq]
  refine Workspace.within_faults.mono fun r _ faults => ?_
  cases r with
  | ok _ => trivial
  | error fault =>
    replace faults := faults fault rfl
    rcases Workspace.entered_cases place implementor.settings.tempPrefix world with
      ⟨refused, acquired, all⟩ | ⟨workspace, ready, acquired, all⟩
    · obtain ⟨_, _, rfl, -, known⟩ := (acquired.and made).elim
      suffices same : refused = fault from same ▸ .of_known known
      rcases faults with entered | left
      · obtain ⟨_, _, first, second⟩ := ((all _).and entered).elim
        exact Except.error.inj (first.symm.trans second)
      · obtain ⟨_, _, first, _, done, -⟩ := ((all _).and left).elim
        cases first.symm.trans done
    · have of_workspace : Path.hasNul workspace.text = true →
          UsesNul implementor.settings described place := by
        obtain ⟨_, _, rfl, -, spelled⟩ := (acquired.and made).elim
        exact spelled
      rcases faults with entered | left
      · have ends : Ends (implementor.stages described place workspace) ready _ :=
          stages_faults of_place of_workspace
        obtain ⟨_, _, outcome, rfl⟩ := (ends.and ((all _ _).mp entered)).elim
        rcases outcome with failure | (known | ⟨rfl, long⟩) | ⟨file, compiled⟩
        · exact .inl failure
        · exact .of_known known
        · exact .inr (.entryName long)
        · have sourced : Ends (implementor.sourcedBeside described place) world fun r ready =>
              r = .ok (workspace, file) ∧
                implementor.Miscompiled described workspace file ready fault := by
            unfold sourcedBeside
            rw [all, Ends.bind_iff]
            refine compiled.mono fun r ready ends => ?_
            obtain ⟨rfl, miscompiled⟩ := ends
            rw [onward_ok, Ends.pure_iff]
            exact ⟨rfl, miscompiled⟩
          exact .inr (.compilation sourced)
      · refine .inr (misbuilt_of_vacated ?_ left)
        unfold vacatedBeside Workspace.vacated
        rw [all, Ends.bind_iff, Ends.attempt_iff]
        obtain ⟨r, after, run⟩ := Ends.exists_run (implementor.stages described place workspace) ready
        rw [Ends.of_run run, onward_ok, Ends.pure_iff]
        intro other same
        cases same
        exact of_workspace

end Building

/-! ## The whole invocation -/

/-- The description of a type and the absolute path of its archive, with which an archive is built. -/
def started (implementor : Implementor) (type : String) (archive : Path) : Job (Interface × Path) := do
  let described ← implementor.describe "archive" type
  return (described, ← Workspace.absolute archive)

/-- What asking for an archive can end in besides its path and the failure of a stage. -/
inductive Stray (implementor : Implementor) (type : String) (archive : Path) (world : World) :
    Fault → Prop where
  /-- The introspector raises a fault. -/
  | introspection {fault : Fault}
      (raised : Ends (implementor.introspector type) world fun r _ => r = .error fault) :
      Stray implementor type archive world fault
  /-- The archive is built, which ends in such a fault. -/
  | building {fault : Fault} {described : Interface} {place : Path}
      (built : Ends (implementor.silent.started type archive) world fun r ready =>
        r = .ok (described, place) ∧ implementor.Misbuilt described place ready fault) :
      Stray implementor type archive world fault
  /-- There is a journal, and an event has to name a type. -/
  | namelessType (kept : implementor.journal ≠ none) (nameless : type = "") :
      Stray implementor type archive world (.event (.lacks ["interface"]))
  /-- There is a journal, and the file that the event goes to cannot be written. -/
  | journal {journal : Journal} {fault : FileFault} (kept : implementor.journal = some journal)
      (refused : Ends (implementor.silent.generateArchive type archive) world fun _ after =>
        ∃ event, Ends (journal.append event) after fun r _ => r = .error (.file fault)) :
      Stray implementor type archive world (.file fault)

/-! ### The note of an invocation -/

variable {type : String}

/-- An invocation ends as it does without a journal, or in the fault of the note that it ends with. -/
theorem generateArchive_noted {post : Except Fault Path → World → Prop}
    (ends : Ends (implementor.silent.generateArchive type archive) world fun r after => post r after ∧
      ∀ outcome details, IsClosing (r.map some) outcome details →
        Ends (implementor.note "archive" type outcome details) after fun noted later =>
          post (noted.bind fun _ => r) later) :
    Ends (implementor.generateArchive type archive) world post :=
  generateArchive_concludes (ends.mono fun _ _ ends => ⟨ends.2, fun _ _ _ => ends.1⟩)

/-- A note fails if the type has no name, and else only with the file that it goes to. -/
theorem note_faults {operation : String} {r : Except Fault (Option Path)} {outcome : String}
    {details : List (String × String)} (known : operation ∈ Event.operations)
    (closing : IsClosing r outcome details) :
    Ends (implementor.note operation type outcome details) world fun r _ => ∀ fault, r = .error fault →
      (implementor.journal ≠ none ∧ type = "" ∧ fault = .event (.lacks ["interface"])) ∨
        ∃ journal refused, implementor.journal = some journal ∧ fault = .file refused ∧
          ∃ event, Ends (journal.append event) world fun r _ => r = .error (.file refused) := by
  cases kept : implementor.journal with
  | none =>
    unfold note
    rw [kept]
    intro fault raised
    cases raised
  | some journal =>
    obtain ⟨r, after, run⟩ :=
      Ends.exists_run (journal.append (.table (noteFields operation type outcome details))) world
    have refusals := journal.append_faults (.table (noteFields operation type outcome details)) world
    rw [Ends.of_run run] at refusals
    rw [note_eq kept, Ends.bind_iff, Ends.of_run run]
    cases r with
    | ok _ =>
      intro fault raised
      cases raised
    | error fault =>
      intro raised same
      cases same
      rcases refusals fault rfl with ⟨cause, checked, rfl⟩ | ⟨refused, rfl⟩
      · rw [check_note known closing] at checked
        split at checked
        · next nameless =>
          cases checked
          exact .inl ⟨by simp, nameless, rfl⟩
        · cases checked
      · exact .inr ⟨journal, refused, rfl, rfl, _, (Ends.of_run run).mpr rfl⟩

/-! ### How it ends -/

/-- How asking for an archive ends: with its path, in the failure of a stage, or in a stray fault. -/
inductive IsAnswer (implementor : Implementor) (type : String) (archive : Path) (world : World) :
    Except Fault Path → Prop where
  | path {described : Interface} {place : Path}
      (started : Ends (implementor.silent.started type archive) world fun r _ =>
        r = .ok (described, place)) : IsAnswer implementor type archive world (.ok place)
  | failure (failure : StageFault) : IsAnswer implementor type archive world (.error (.stage failure))
  | stray {fault : Fault} (stray : implementor.Stray type archive world fault) :
      IsAnswer implementor type archive world (.error fault)

theorem silent_describe_faults (implementor : Implementor) (operation type : String) (world : World) :
    Ends (implementor.silent.describe operation type) world fun r _ =>
    ∀ fault, r = .error fault → (∃ failure, fault = .stage failure) ∨
      Ends (implementor.introspector type) world fun r _ => r = .error fault := by
  unfold describe
  rw [Ends.tryCatch_iff]
  refine (implementable_refusals implementor.introspector type world).mono fun r after refusals => ?_
  cases r with
  | ok described =>
    intro fault raised
    cases raised
  | error fault =>
    rw [caught_error]
    split
    · intro raised same
      cases same
      exact .inl ⟨_, rfl⟩
    · exact fun fault same => (refusals fault same).imp_left fun ⟨cause, equal⟩ => ⟨_, equal⟩

theorem silent_answers (implementor : Implementor) (type : String) (archive : Path) (world : World) :
    Ends (implementor.silent.generateArchive type archive) world fun r _ =>
      implementor.IsAnswer type archive world r := by
  have refusals := silent_describe_faults implementor "archive" type world
  obtain ⟨r, ready, run⟩ := Ends.exists_run (implementor.silent.describe "archive" type) world
  rw [Ends.of_run run] at refusals
  unfold generateArchive
  rw [Ends.bind_iff, Ends.of_run run]
  cases r with
  | error fault =>
    rcases refusals fault rfl with ⟨failure, rfl⟩ | raised
    · exact .failure failure
    · exact .stray (.introspection raised)
  | ok described =>
    have started {post : Except Fault (Interface × Path) → World → Prop}
        (holds : post (.ok (described, Path.absoluteFrom ready.disk.here.path archive)) ready) :
        Ends (implementor.silent.started type archive) world post := by
      unfold started
      rw [Ends.bind_iff, Ends.of_run run]
      exact holds
    have built : Ends (implementor.silent.buildArchive described
        (Path.absoluteFrom ready.disk.here.path archive)) ready fun r _ => IsOutcome (fun _ => True)
          (implementor.IsEnd described (Path.absoluteFrom ready.disk.here.path archive) ready) r :=
      buildArchive_faults implementor described ready (Path.isAbsolute_absoluteFrom rfl archive)
    rw [onward_ok, absolute_iff, Ends.bind_iff, Ends.attempt_iff]
    refine built.mono fun r after outcome => ?_
    rw [onward_ok]
    cases r with
    | ok _ => exact .path (started rfl)
    | error fault =>
      rcases outcome with ⟨failure, rfl⟩ | misbuilt
      · exact .failure failure
      · have stray : implementor.Stray type archive world fault := .building (started ⟨rfl, misbuilt⟩)
        cases fault with
        | stage failure => exact .failure failure
        | _ => exact .stray stray

/-- However an archive is asked for, the answer is its path, the failure of a stage, or a fault with one of
the causes of stray faults. -/
theorem generateArchive_answers (implementor : Implementor) (type : String) (archive : Path)
    (world : World) :
    Ends (implementor.generateArchive type archive) world fun r _ =>
      implementor.IsAnswer type archive world r := by
  obtain ⟨r, after, run⟩ := Ends.exists_run (implementor.silent.generateArchive type archive) world
  have answers := silent_answers implementor type archive world
  rw [Ends.of_run run] at answers
  refine generateArchive_noted ((Ends.of_run run).mpr ⟨answers, fun outcome details closing => ?_⟩)
  refine (note_faults (by decide) closing).mono fun noted later faults => ?_
  cases noted with
  | ok _ => exact answers
  | error fault =>
    rcases faults fault rfl with ⟨kept, nameless, rfl⟩ | ⟨journal, refused, kept, rfl, added⟩
    · exact .stray (.namelessType kept nameless)
    · exact .stray (.journal kept ((Ends.of_run run).mpr added))

/-- An implementor that knows no types. -/
def ignorant (journal : Option Journal) : Implementor where
  settings := ⟨"Impl", "   ", ".java", ".class", "tmp", "javac", [], "javap", false, .ofText "log"⟩
  introspector := Catalog.introspector (.ofTypes [])
  compiler := fun _ _ => return ⟨0, "", ""⟩
  journal := journal

/-- Nothing but a root directory. -/
def nowhere : World :=
  .start ⟨.empty, [], [], [], 0o022⟩ [] (.ofText "2024-01-02T03:04:05+00:00") none

/-- A type without a name is not known, which is the failure of a stage; but with a journal it ends in the
fault of an event that lacks a field. -/
theorem nameless_strays :
    Ends ((ignorant none).generateArchive "" (.ofText "j.jar")) nowhere
      (fun r _ => r = .error (.stage (.invalidInput (.unknownType "")))) ∧
    Ends ((ignorant (some ⟨.ofText "log", 100⟩)).generateArchive "" (.ofText "j.jar")) nowhere
      fun r _ => r = .error (.event (.lacks ["interface"])) ∧
        ¬ ((∃ path, r = .ok path) ∨ ∃ failure, r = .error (.stage failure)) := by
  have strays : Ends ((ignorant (some ⟨.ofText "log", 100⟩)).generateArchive "" (.ofText "j.jar"))
      nowhere fun r _ => r = .error (.event (.lacks ["interface"])) := rfl
  refine ⟨rfl, strays.mono fun r _ same => ⟨same, ?_⟩⟩
  subst same
  rintro (⟨path, same⟩ | ⟨failure, same⟩)
  · cases same
  · cases same

end JavaStubs.Implementor
