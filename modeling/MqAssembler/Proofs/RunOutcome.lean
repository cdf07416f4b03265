import MqAssembler.Run
import MqAssembler.Proofs.AssemblyRoundTrip
import MqAssembler.Proofs.StoredFiles

/-!
# What a run leaves behind

A run on a file system either exits with status zero and has written one file, or it exits with
status one and has changed nothing but, at most, its output. Which of the two happens is decided by
the contents of the files it reads and by what becomes of its output.

## Implementation notes

The stages of a run are described one by one: loading reads and does not write, and only the last
stage writes. The last stage also reads the executable back if a listing is asked for; since it was
assembled before, the reader accepts it.

Nothing is used of the file system but its laws. A write that fails after its file was created may
leave anything in that file, and nothing is said about it.
-/

namespace MqAssembler

variable {α β σ : Type}

/-- A stage hands its answer and its state to the next one. -/
theorem run_bind_of_run {stage : StateM σ α} {s after : σ} {a : α}
    (h : stage.run s = (a, after)) (next : α → StateM σ β) :
    (stage >>= next).run s = (next a).run after := by
  change (next (stage.run s).1).run (stage.run s).2 = _
  rw [h]

/-! ## Writing to a file system -/

namespace FileSystem

section Written

variable [FileSystem σ]

/-- A path can be created and takes these bytes. -/
def Writable (s : σ) (path : String) (bytes : List UInt8) : Prop :=
  ∃ handle opened, create s path = some (handle, opened) ∧ (fill opened handle bytes).1 = true

variable [LawfulFileSystem σ] {s opened : σ} {path : String} {handle : Handle σ} {file : File σ}

theorem file?_written (hcreate : create s path = some (handle, opened)) (bytes : List UInt8) :
    file? (fill opened handle bytes).2 path = target? handle := by
  have hopen (file : File σ) (hfile : target? handle = some file) :
      ∃ held, content? opened file = some held :=
    ⟨[], LawfulFileSystem.content?_create hcreate hfile⟩
  rw [LawfulFileSystem.file?_fill hopen, LawfulFileSystem.file?_create hcreate]

/-- A file that is written holds the bytes and nothing else. -/
theorem content?_written {bytes : List UInt8} (hcreate : create s path = some (handle, opened))
    (hfill : (fill opened handle bytes).1 = true)
    (hfile : file? (fill opened handle bytes).2 path = some file) :
    content? (fill opened handle bytes).2 file = some bytes := by
  rw [file?_written hcreate] at hfile
  exact LawfulFileSystem.content?_fill hfill hfile
    (LawfulFileSystem.content?_create hcreate hfile)

/-- Every other file is as before, whether the bytes were taken or not. -/
theorem content?_written_of_ne {bytes : List UInt8}
    (hcreate : create s path = some (handle, opened))
    (hfile : file? (fill opened handle bytes).2 path ≠ some file) :
    content? (fill opened handle bytes).2 file = content? s file := by
  rw [file?_written hcreate] at hfile
  rw [LawfulFileSystem.content?_fill_of_ne hfile,
    LawfulFileSystem.content?_create_of_ne hcreate hfile]

end Written

/-! ## Steps on a file system -/

variable [FileSystem σ]

theorem run_read_bind (path : String) (next : Except ReadError (List UInt8) → StateM σ β) (s : σ) :
    (FileAccess.read path >>= next).run s = (next (read s path)).run s := rfl

theorem run_create_of_eq_none {path : String} {s : σ} (h : create s path = none) :
    (FileAccess.create path : StateM σ (Option (FileAccess.Handle (StateM σ)))).run s =
      (none, s) := by
  change (create s path).elim (none, s) (fun p => (some p.1, p.2)) = _
  rw [h]
  rfl

theorem run_create_of_eq_some {path : String} {s opened : σ} {handle : Handle σ}
    (h : create s path = some (handle, opened)) :
    (FileAccess.create path : StateM σ (Option (FileAccess.Handle (StateM σ)))).run s =
      (some handle, opened) := by
  change (create s path).elim (none, s) (fun p => (some p.1, p.2)) = _
  rw [h]
  rfl

theorem run_fill_bind (handle : Handle σ) (bytes : List UInt8) (next : Bool → StateM σ β) (s : σ) :
    ((FileAccess.fill handle bytes : StateM σ Bool) >>= next).run s =
      (next (fill s handle bytes).1).run (fill s handle bytes).2 := rfl

end FileSystem

open FileSystem

section Stages

variable [FileSystem σ]

/-! ## Loading -/

/-- Loading a document reads one file and changes none. It succeeds exactly if the file can be read
and its contents are accepted. -/
theorem run_loadDocument (path : String) (ofBytes : List UInt8 → Except DocumentError α) (s : σ) :
    ∃ answer, (loadDocument path ofBytes : StateM σ (Except Failure α)).run s = (answer, s) ∧
      ∀ x, answer = .ok x ↔ ∃ content, read s path = .ok content ∧ ofBytes content = .ok x := by
  rw [loadDocument, run_read_bind]
  cases hread : read s path with
  | error e =>
      cases e with
      | notFound => exact ⟨_, rfl, by simp⟩
      | failed reason => exact ⟨_, rfl, by simp⟩
  | ok content =>
      dsimp only
      cases hdecode : ofBytes content with
      | error e => exact ⟨_, rfl, by simp [hdecode]⟩
      | ok x => exact ⟨_, rfl, by simp [hdecode]⟩

theorem run_sourceText (p : Program) (s : σ) :
    ∃ source, (p.sourceText : StateM σ (Option SourceText)).run s = (source, s) := by
  rw [Program.sourceText]
  cases p.source with
  | none => exact ⟨none, rfl⟩
  | some file =>
      dsimp only
      rw [run_read_bind]
      cases read s file with
      | error e => exact ⟨none, rfl⟩
      | ok bytes => exact ⟨_, rfl⟩

/-! ## Writing -/

/-- What writing an executable does: it creates the file and fills it, and stops at the first of
these steps that fails. -/
theorem run_writeExecutable_cases (path : String) (bytes : List UInt8) (s : σ) :
    (create s path = none ∧
      (writeExecutable path bytes : StateM σ (Except Failure Unit)).run s =
        (.error (.fileCreate path), s)) ∨
    ∃ handle opened, create s path = some (handle, opened) ∧
      (writeExecutable path bytes : StateM σ (Except Failure Unit)).run s =
        (if (fill opened handle bytes).1 then .ok () else .error (.fileWrite path),
          (fill opened handle bytes).2) := by
  rw [writeExecutable]
  cases hcreate : create s path with
  | none =>
      rw [run_bind_of_run (run_create_of_eq_none hcreate)]
      exact Or.inl ⟨rfl, rfl⟩
  | some pair =>
      obtain ⟨handle, opened⟩ := pair
      rw [run_bind_of_run (run_create_of_eq_some hcreate)]
      refine Or.inr ⟨handle, opened, rfl, ?_⟩
      dsimp only
      rw [run_fill_bind]
      cases (fill opened handle bytes).1 <;> rfl

/-- How the last stage of a run ends. -/
inductive Request.Finishes (r : Request) (set : InstructionSet) (image : Image)
    (bytes : List UInt8) (before : σ) : Outcome × σ → Prop
  /-- The output cannot be created. -/
  | notCreated (lines : List String) (hcreate : create before r.outputPath = none) :
      Finishes r set image bytes before (⟨1, lines⟩, before)
  /-- The output does not take the bytes. -/
  | notFilled {handle : Handle σ} {opened : σ} (lines : List String)
      (hcreate : create before r.outputPath = some (handle, opened))
      (hfill : (fill opened handle bytes).1 = false) :
      Finishes r set image bytes before (⟨1, lines⟩, (fill opened handle bytes).2)
  /-- The output is written and, if asked for, listed. -/
  | written {handle : Handle σ} {opened : σ} (lines : List String)
      (hcreate : create before r.outputPath = some (handle, opened))
      (hfill : (fill opened handle bytes).1 = true)
      (hdump : r.dump = true → ∃ printed, lines = printed ++ Listing.lines image set.toTable) :
      Finishes r set image bytes before (⟨0, lines⟩, (fill opened handle bytes).2)

theorem Request.finishes (r : Request) (set : InstructionSet) (printed : List String)
    {bytes : List UInt8} {image : Image} (hread : Image.read bytes = .ok image) (s : σ) :
    r.Finishes set image bytes s ((r.finish set printed bytes : StateM σ Outcome).run s) := by
  obtain ⟨hcreate, hwrite⟩ | ⟨handle, opened, hcreate, hwrite⟩ :=
    run_writeExecutable_cases r.outputPath bytes s
  · rw [Request.finish, run_bind_of_run hwrite]
    exact .notCreated _ hcreate
  · rw [Request.finish, run_bind_of_run hwrite]
    cases hfill : (fill opened handle bytes).1 with
    | false => exact .notFilled _ hcreate hfill
    | true =>
        simp only [if_true]
        cases hdump : r.dump with
        | false => exact .written _ hcreate hfill (by simp [hdump])
        | true =>
            simp only [if_true, hread]
            exact .written _ hcreate hfill fun _ => ⟨_, rfl⟩

/-! ## Assembling -/

/-- A loaded program is assembled and handed to the last stage, or the run ends without a write. -/
theorem run_build_cases (r : Request) (set : InstructionSet) (program : Program)
    (printed : List String) (s : σ) :
    (∃ bytes before,
      (assembleReporting r.verbose program.includes program.code set.toTable).result = .ok bytes ∧
      (r.build set program printed : StateM σ Outcome).run s =
        (r.finish set before bytes : StateM σ Outcome).run s) ∨
    ((∀ bytes,
      (assembleReporting r.verbose program.includes program.code set.toTable).result ≠ .ok bytes) ∧
      ∃ lines, (r.build set program printed : StateM σ Outcome).run s = (⟨1, lines⟩, s)) := by
  rw [Request.build]
  cases hresult :
      (assembleReporting r.verbose program.includes program.code set.toTable).result with
  | ok bytes => exact Or.inl ⟨bytes, _, rfl, rfl⟩
  | error e =>
      obtain ⟨source, hsource⟩ := run_sourceText program s
      refine Or.inr ⟨by simp, ?_⟩
      dsimp only
      rw [run_bind_of_run hsource]
      exact ⟨_, rfl⟩

/-! ## Whole runs -/

/-- The files that a request names hold an instruction set and a program, and the program is
assembled to these bytes. -/
structure Request.Builds (r : Request) (format : DocumentFormat) (s : σ) (set : InstructionSet)
    (program : Program) (bytes : List UInt8) : Prop where
  isa : ∃ content, read s r.isa = .ok content ∧ format.instructionSet content = .ok set
  input : ∃ content, read s r.input = .ok content ∧ format.program content = .ok program
  assembled :
    (assembleReporting r.verbose program.includes program.code set.toTable).result = .ok bytes

variable {r : Request} {format : DocumentFormat} {s : σ} {set set' : InstructionSet}
  {program program' : Program} {bytes bytes' : List UInt8}

/-- A request asks for one executable at most. -/
theorem Request.Builds.unique (h : r.Builds format s set program bytes)
    (h' : r.Builds format s set' program' bytes') : set' = set ∧ bytes' = bytes := by
  obtain ⟨content, hread, hset⟩ := h.isa
  obtain ⟨content', hread', hset'⟩ := h'.isa
  obtain ⟨listing, hlisting, hprogram⟩ := h.input
  obtain ⟨listing', hlisting', hprogram'⟩ := h'.input
  rw [hread] at hread'
  rw [hlisting] at hlisting'
  cases hread'
  cases hlisting'
  rw [hset] at hset'
  rw [hprogram] at hprogram'
  cases hset'
  cases hprogram'
  have hbytes := h'.assembled
  rw [h.assembled] at hbytes
  exact ⟨rfl, (Except.ok.inj hbytes).symm⟩

/-- What assembly produces is read back without a fault. -/
theorem Request.Builds.exists_read (h : r.Builds format s set program bytes) :
    ∃ image, Image.read bytes = .ok image := by
  have hassembled := h.assembled
  rw [result_assembleReporting] at hassembled
  obtain ⟨words, -, hvalid, rfl⟩ := exists_valid_of_assemble hassembled
  exact ⟨_, hvalid.read_layout⟩

/-- A run that reaches its last stage has built its executable and not yet changed a file. A run
that does not exits with status one and has changed nothing. -/
theorem Request.run_cases (r : Request) (format : DocumentFormat) (s : σ) :
    (∃ set program bytes image, r.Builds format s set program bytes ∧
      Image.read bytes = .ok image ∧
      r.Finishes set image bytes s ((r.run format : StateM σ Outcome).run s)) ∨
    ((∀ set program bytes, ¬ r.Builds format s set program bytes) ∧
      ∃ lines, (r.run format : StateM σ Outcome).run s = (⟨1, lines⟩, s)) := by
  obtain ⟨loadedSet, hloadSet, hset⟩ := run_loadDocument r.isa format.instructionSet s
  rw [Request.run, run_bind_of_run hloadSet]
  cases loadedSet with
  | error e =>
      refine Or.inr ⟨?_, _, rfl⟩
      intro set program bytes hbuilds
      exact nomatch (hset set).2 hbuilds.isa
  | ok set =>
      obtain ⟨loaded, hload, hprogram⟩ := run_loadDocument r.input format.program s
      dsimp only
      rw [run_bind_of_run hload]
      cases loaded with
      | error e =>
          refine Or.inr ⟨?_, _, rfl⟩
          intro set program bytes hbuilds
          exact nomatch (hprogram program).2 hbuilds.input
      | ok program =>
          dsimp only
          have hisa := (hset set).1 rfl
          have hinput := (hprogram program).1 rfl
          obtain ⟨bytes, before, hresult, hbuild⟩ | ⟨hresult, lines, hbuild⟩ :=
            run_build_cases r set program _ s
          · have hbuilds : r.Builds format s set program bytes := ⟨hisa, hinput, hresult⟩
            obtain ⟨image, hread⟩ := hbuilds.exists_read
            rw [hbuild]
            exact Or.inl ⟨set, program, bytes, image, hbuilds, hread,
              r.finishes set before hread s⟩
          · refine Or.inr ⟨?_, lines, hbuild⟩
            intro set' program' bytes hbuilds
            have hset' := (hset set').2 hbuilds.isa
            have hprogram' := (hprogram program').2 hbuilds.input
            cases hset'
            cases hprogram'
            exact hresult bytes hbuilds.assembled

end Stages

/-! ## The output -/

theorem Request.outputPath_eq {r : Request} {output : String}
    (h : r.output = some output ∨ r.output = none ∧ output = OutputPath.ofInput r.input) :
    r.outputPath = output := by
  rcases h with h | ⟨h, rfl⟩ <;> rw [Request.outputPath, h] <;> rfl

namespace Request.Finishes

variable [FileSystem σ] {r : Request} {set : InstructionSet} {image : Image} {bytes : List UInt8}
  {before after : σ} {outcome : Outcome}

theorem status_eq_zero_iff (h : r.Finishes set image bytes before (outcome, after)) :
    outcome.status = 0 ↔ Writable before r.outputPath bytes := by
  cases h with
  | notCreated lines hcreate => simp [Writable, hcreate]
  | notFilled lines hcreate hfill => simp [Writable, hcreate, hfill]
  | written lines hcreate hfill hdump => simp [Writable, hcreate, hfill]

theorem status_eq_one_of_ne (h : r.Finishes set image bytes before (outcome, after))
    (hstatus : outcome.status ≠ 0) : outcome.status = 1 := by
  cases h with
  | notCreated | notFilled => rfl
  | written => exact absurd rfl hstatus

theorem eq_of_create_eq_none (h : r.Finishes set image bytes before (outcome, after))
    (hnone : create before r.outputPath = none) : after = before := by
  cases h with
  | notCreated => rfl
  | notFilled lines hcreate hfill => exact nomatch hnone.symm.trans hcreate
  | written lines hcreate hfill hdump => exact nomatch hnone.symm.trans hcreate

theorem exists_listing (h : r.Finishes set image bytes before (outcome, after))
    (hstatus : outcome.status = 0) (hdump : r.dump = true) :
    ∃ printed, outcome.lines = printed ++ Listing.lines image set.toTable := by
  cases h with
  | notCreated | notFilled => cases hstatus
  | written lines hcreate hfill hlisted => exact hlisted hdump

variable [LawfulFileSystem σ] {file : File σ}

/-- However the last stage ends, it leaves every file alone but the output. -/
theorem content?_of_ne (h : r.Finishes set image bytes before (outcome, after))
    (hfile : file? after r.outputPath ≠ some file) :
    content? after file = content? before file := by
  cases h with
  | notCreated => rfl
  | notFilled lines hcreate hfill => exact content?_written_of_ne hcreate hfile
  | written lines hcreate hfill hdump => exact content?_written_of_ne hcreate hfile

/-- The output path leads to the file that was created through it. -/
theorem file?_eq_target? {handle : Handle σ} {opened : σ}
    (h : r.Finishes set image bytes before (outcome, after))
    (hcreated : create before r.outputPath = some (handle, opened)) :
    file? after r.outputPath = target? handle := by
  cases h with
  | notCreated lines hcreate => exact nomatch hcreate.symm.trans hcreated
  | notFilled lines hcreate hfill =>
      obtain ⟨rfl, rfl⟩ := Prod.mk.inj (Option.some.inj (hcreate.symm.trans hcreated))
      exact file?_written hcreate bytes
  | written lines hcreate hfill hdump =>
      obtain ⟨rfl, rfl⟩ := Prod.mk.inj (Option.some.inj (hcreate.symm.trans hcreated))
      exact file?_written hcreate bytes

/-- A file that the output path led to before is the one that it leads to afterwards. -/
theorem file?_eq (h : r.Finishes set image bytes before (outcome, after))
    (hfile : file? before r.outputPath = some file) : file? after r.outputPath = some file := by
  cases hcreate : create before r.outputPath with
  | none => rw [h.eq_of_create_eq_none hcreate, hfile]
  | some pair => rw [h.file?_eq_target? hcreate, LawfulFileSystem.target?_of_file? hcreate hfile]

theorem content?_eq (h : r.Finishes set image bytes before (outcome, after))
    (hstatus : outcome.status = 0) (hfile : file? after r.outputPath = some file) :
    content? after file = some bytes := by
  cases h with
  | notCreated | notFilled => cases hstatus
  | written lines hcreate hfill hdump => exact content?_written hcreate hfill hfile

end Request.Finishes

/-- A run writes to the output that was asked for or else to the one derived from its input. If it
cannot load its files or assemble its program, it exits with status one and changes nothing. It
exits with status zero exactly if it can do both and the output can be created and takes the bytes;
then the file that the output path leads to holds the executable. In every case all other files are
as before. A listing that was asked for is printed, since the executable is always accepted by the
reader. -/
theorem run_is_all_or_nothing [FileSystem σ] [LawfulFileSystem σ] (r : Request)
    (format : DocumentFormat) (output : String)
    (houtput : r.output = some output ∨ r.output = none ∧ output = OutputPath.ofInput r.input)
    (before after : σ) (outcome : Outcome)
    (hrun : (r.run format : StateM σ Outcome).run before = (outcome, after)) :
    ((∀ set program bytes, ¬ r.Builds format before set program bytes) →
      outcome.status = 1 ∧ after = before) ∧
    (outcome.status = 0 ↔ ∃ set program bytes,
      r.Builds format before set program bytes ∧ Writable before output bytes) ∧
    (outcome.status ≠ 0 → outcome.status = 1) ∧
    (create before output = none → after = before) ∧
    (∀ file, file? after output ≠ some file → content? after file = content? before file) ∧
    ∀ set program bytes, r.Builds format before set program bytes →
      (∀ e, Image.read bytes ≠ .error e) ∧
      (outcome.status = 0 →
        (∀ handle opened, create before output = some (handle, opened) →
          file? after output = target? handle) ∧
        (∀ file, file? before output = some file → file? after output = some file) ∧
        (∀ file, file? after output = some file → content? after file = some bytes ∧
          ∀ content, read after output = .ok content → content = bytes) ∧
        (r.dump = true → ∃ image printed, Image.read bytes = .ok image ∧
          outcome.lines = printed ++ Listing.lines image set.toTable)) := by
  obtain rfl := Request.outputPath_eq houtput
  obtain ⟨set, program, bytes, image, hbuilds, hread, hends⟩ | ⟨hnone, lines, hends⟩ :=
    r.run_cases format before
  · rw [hrun] at hends
    have hstatus : outcome.status = 0 ↔ ∃ set program bytes,
        r.Builds format before set program bytes ∧ Writable before r.outputPath bytes := by
      rw [hends.status_eq_zero_iff]
      constructor
      · intro hwritable
        exact ⟨set, program, bytes, hbuilds, hwritable⟩
      · rintro ⟨set', program', bytes', hbuilds', hwritable⟩
        obtain ⟨-, rfl⟩ := hbuilds.unique hbuilds'
        exact hwritable
    refine ⟨fun hnone => absurd hbuilds (hnone set program bytes), hstatus,
      hends.status_eq_one_of_ne, hends.eq_of_create_eq_none, fun file => hends.content?_of_ne, ?_⟩
    intro set' program' bytes' hbuilds'
    obtain ⟨rfl, rfl⟩ := hbuilds.unique hbuilds'
    refine ⟨?_, fun hzero => ⟨fun handle opened => hends.file?_eq_target?,
      fun file => hends.file?_eq, ?_, ?_⟩⟩
    · intro e he
      exact nomatch hread.symm.trans he
    · intro file hfile
      have hheld := hends.content?_eq hzero hfile
      refine ⟨hheld, ?_⟩
      intro content hcontent
      exact Option.some.inj ((LawfulFileSystem.content?_of_read hfile hcontent).symm.trans hheld)
    · intro hdump
      obtain ⟨printed, hlines⟩ := hends.exists_listing hzero hdump
      exact ⟨image, printed, hread, hlines⟩
  · obtain ⟨rfl, rfl⟩ := Prod.mk.inj (hrun.symm.trans hends)
    refine ⟨fun _ => ⟨rfl, rfl⟩, ?_, fun _ => rfl, fun _ => rfl, fun _ _ => rfl, ?_⟩
    · simp [hnone]
    · intro set program bytes hbuilds
      exact absurd hbuilds (hnone set program bytes)

/-- A store with an instruction set and a program of one instruction. -/
def smallStore : FileStore :=
  ⟨.ofPairs [("isa.yaml", "lra: 3\n".toUTF8.data.toList),
    ("main.mql.yaml", "code: [{op: LRA, value: 2, mode: pointer}]\n".toUTF8.data.toList)]⟩

theorem smallStore_builds (output : Option String) (verbose dump : Bool) :
    Request.Builds ⟨"main.mql.yaml", "isa.yaml", output, verbose, dump⟩ .yaml smallStore
      ⟨InstructionSet.empty.slots.set 3 (some "lra")⟩ ⟨none, [], [⟨"LRA", 2, .pointer, 0⟩]⟩
      [0x31, 0x2E, 0x31, 0x20, 0, 0, 2, 0, 0, 0, 0x03, 0x81] := by
  have hset : ∃ content, smallStore.read "isa.yaml" = .ok content ∧
      InstructionSet.ofBytes content =
        .ok ⟨InstructionSet.empty.slots.set 3 (some "lra")⟩ := ⟨_, rfl, rfl⟩
  have hprogram : ∃ content, smallStore.read "main.mql.yaml" = .ok content ∧
      Program.ofBytes content = .ok ⟨none, [], [⟨"LRA", 2, .pointer, 0⟩]⟩ := ⟨_, rfl, rfl⟩
  refine ⟨hset, hprogram, ?_⟩
  rw [result_assembleReporting]
  rfl

/-- One run whose output goes, by another path, to the very file that the instruction set was read
from, and one whose output is derived from its input. -/
theorem run_is_all_or_nothing_given_and_derived_output :
    (∃ outcome after,
      (Request.run ⟨"main.mql.yaml", "isa.yaml", some "./isa.yaml", false, true⟩ .yaml :
        StateM FileStore Outcome).run smallStore = (outcome, after) ∧
      outcome.status = 0 ∧
      after.files.get? "isa.yaml" =
        some [0x31, 0x2E, 0x31, 0x20, 0, 0, 2, 0, 0, 0, 0x03, 0x81] ∧
      after.files.get? "main.mql.yaml" = smallStore.files.get? "main.mql.yaml") ∧
    ∃ outcome after,
      (Request.run ⟨"main.mql.yaml", "isa.yaml", none, true, false⟩ .yaml :
        StateM FileStore Outcome).run smallStore = (outcome, after) ∧
      outcome.status = 0 ∧
      after.files.get? "main.mqa" =
        some [0x31, 0x2E, 0x31, 0x20, 0, 0, 2, 0, 0, 0, 0x03, 0x81] ∧
      after.files.get? "isa.yaml" = smallStore.files.get? "isa.yaml" := by
  constructor
  · rcases hrun : (Request.run ⟨"main.mql.yaml", "isa.yaml", some "./isa.yaml", false, true⟩ .yaml :
      StateM FileStore Outcome).run smallStore with ⟨outcome, after⟩
    obtain ⟨-, hstatus, -, -, hframe, hwritten⟩ := run_is_all_or_nothing _ .yaml "./isa.yaml"
      (Or.inl rfl) smallStore after outcome hrun
    have hcreate : smallStore.create "./isa.yaml" =
        some (.file "isa.yaml", smallStore.put "isa.yaml" []) := rfl
    have hbuilds := smallStore_builds (some "./isa.yaml") false true
    have hzero := hstatus.2 ⟨_, _, _, hbuilds, _, _, hcreate, rfl⟩
    obtain ⟨hleads, -, hholds, -⟩ := (hwritten _ _ _ hbuilds).2 hzero
    have hfile : after.file? "./isa.yaml" = some "isa.yaml" := hleads _ _ hcreate
    refine ⟨outcome, after, rfl, hzero, (hholds _ hfile).1, hframe "main.mql.yaml" ?_⟩
    intro hother
    exact absurd (Option.some.inj (hfile.symm.trans hother)) (by decide)
  · rcases hrun : (Request.run ⟨"main.mql.yaml", "isa.yaml", none, true, false⟩ .yaml :
      StateM FileStore Outcome).run smallStore with ⟨outcome, after⟩
    obtain ⟨-, hstatus, -, -, hframe, hwritten⟩ := run_is_all_or_nothing _ .yaml "main.mqa"
      (Or.inr ⟨rfl, by decide +kernel⟩) smallStore after outcome hrun
    have hcreate : smallStore.create "main.mqa" =
        some (.file "main.mqa", smallStore.put "main.mqa" []) := rfl
    have hbuilds := smallStore_builds none true false
    have hzero := hstatus.2 ⟨_, _, _, hbuilds, _, _, hcreate, rfl⟩
    obtain ⟨hleads, -, hholds, -⟩ := (hwritten _ _ _ hbuilds).2 hzero
    have hfile : after.file? "main.mqa" = some "main.mqa" := hleads _ _ hcreate
    refine ⟨outcome, after, rfl, hzero, (hholds _ hfile).1, hframe "isa.yaml" ?_⟩
    intro hother
    exact absurd (Option.some.inj (hfile.symm.trans hother)) (by decide)

end MqAssembler
