import MlogHighlight.Proofs.CommandLine.Ending

/-!
# Runs over files

The files that a command line names are shown one after the other, and what is printed for a file
does not depend on the other ones. The first file that cannot be opened ends the run, behind all
that has been printed for the files in front of it. Main facts:

* `exists_prints`: files that can be read are printed, each on its own;
* `showFiles_append`: what is printed for some files stands in front of what becomes of the others;
* `run_eq_showFiles`: a run with file names shows the files that they stand for;
* `run_files`: what is printed by such a run, and how it ends.
-/

namespace MlogHighlight

/-- All files are UTF-8. -/
def FileSystem.HoldsText (fs : FileSystem) : Prop :=
  ∀ path octets, fs path = .ok (.file octets) → ∃ text, Utf8.decode octets = .ok text

/-- Files that are UTF-8 can be read if they can be opened. -/
theorem FileSystem.HoldsText.exists_fault {fs : FileSystem} (h : fs.HoldsText) {path : Text}
    {e : ReadError} (he : fs.read path = .error e) : ∃ fault, e = .unreachable path fault := by
  unfold read at he
  cases hnode : fs path with
  | error fault =>
    rw [hnode] at he
    exact ⟨fault, (Except.error.inj he).symm⟩
  | ok node =>
    cases node with
    | directory entries =>
      rw [hnode] at he
      exact ⟨.isADirectory, (Except.error.inj he).symm⟩
    | file octets =>
      rcases h path octets hnode with ⟨text, htext⟩
      simp [hnode, htext] at he

namespace CommandLine

/-! ## What is printed for files -/

/-- What is printed for the file at a path: its text, shown under the name of the file. -/
def Prints (fs : FileSystem) (table : RuleTable) (format : Format) (display : Text → Text)
    (path stdout : Text) : Prop :=
  ∃ text, fs.read path = .ok text ∧ format.render table (display path) text = .ok stdout

theorem Outcome.printing_nil (o : Outcome) : o.printing [] = o := rfl

theorem Outcome.printing_printing (o : Outcome) (first later : Text) :
    (o.printing later).printing first = o.printing (first ++ later) := by
  simp only [printing, List.append_assoc]

section

variable {fs : FileSystem} {table : RuleTable} {format : Format} {display : Text → Text}
  {paths printed : List Text}

/-- Files that can be read are printed. -/
theorem exists_prints (known : table.Known) (h : ∀ path ∈ paths, ∃ text, fs.read path = .ok text) :
    ∃ printed, List.Forall₂ (Prints fs table format display) paths printed := by
  induction paths with
  | nil => exact ⟨[], List.Forall₂.nil⟩
  | cons path rest ih =>
    rcases List.forall_mem_cons.mp h with ⟨⟨text, hread⟩, hrest⟩
    rcases ih hrest with ⟨printed, hprinted⟩
    rcases known.exists_render format (display path) text with ⟨stdout, hstdout⟩
    exact ⟨stdout :: printed, List.Forall₂.cons ⟨text, hread, hstdout⟩ hprinted⟩

/-- What is printed for some files stands in front of what becomes of the files behind them. -/
theorem showFiles_append (h : List.Forall₂ (Prints fs table format display) paths printed)
    (rest : List Text) : showFiles fs table format display (paths ++ rest) =
      (showFiles fs table format display rest).printing printed.flatten := by
  -- by the files that have been printed; each of them only adds its own output in front
  induction h with
  | nil => exact (Outcome.printing_nil _).symm
  | cons hpath _ ih =>
    rcases hpath with ⟨text, hread, hrender⟩
    rw [List.cons_append, showFiles, hread, List.flatten_cons, ← Outcome.printing_printing, ← ih]
    simp only [hrender]

/-- All files are printed. -/
theorem showFiles_of_prints (h : List.Forall₂ (Prints fs table format display) paths printed) :
    showFiles fs table format display paths = .success printed.flatten := by
  have happend := showFiles_append h []
  rw [List.append_nil] at happend
  rw [happend, showFiles, Outcome.success, Outcome.printing, Outcome.success, List.append_nil]

/-- Nothing is printed for the first file that cannot be read, nor for the files behind it. -/
theorem showFiles_of_error (h : List.Forall₂ (Prints fs table format display) paths printed)
    {path : Text} {e : ReadError} (he : fs.read path = .error e) (later : List Text) :
    showFiles fs table format display (paths ++ path :: later) =
      (Outcome.unreadable e).printing printed.flatten := by
  rw [showFiles_append h, showFiles, he]

end

/-! ## Runs -/

/-- A run with file names shows the files that the names stand for. -/
theorem run_eq_showFiles {arguments : List Text} {r : Request}
    (harguments : Request.ofArguments arguments = .ok r) (htest : r.test = false)
    (hrules : r.rules = false) (hinteractive : r.interactive = false) (hfiles : r.files ≠ [])
    (world : World) {sets : Vocabulary} {table : RuleTable}
    (hload : Vocabulary.loadOrPackaged world.files r.vocab = .ok sets)
    (hbuild : RuleTable.build sets = .ok table) :
    run arguments world =
      (showFiles world.files table r.format (world.files.displayName r.files)
        (world.files.expandAll r.files)).logging (r.log world.files) := by
  have hsome : r.files.isEmpty = false := by
    rw [← Bool.not_eq_true, List.isEmpty_iff]
    exact hfiles
  have hclassify : classifyAll r world table =
      showFiles world.files table r.format (world.files.displayName r.files)
        (world.files.expandAll r.files) := by
    simp [classifyAll, Request.converses, hrules, hinteractive, hsome]
  rw [run, harguments, ← hclassify]
  simp only [fulfil, htest, Request.table, Request.log, hload, hbuild]
  rfl

theorem run_of_unloadable {arguments : List Text} {r : Request}
    (harguments : Request.ofArguments arguments = .ok r) (htest : r.test = false) (world : World)
    {e : Vocabulary.LoadError} (hload : Vocabulary.loadOrPackaged world.files r.vocab = .error e) :
    run arguments world = .unloadable e := by
  rw [run, harguments]
  simp only [fulfil, htest, Request.table, hload]
  rfl

/-- A path that is refused is reported, unless it can be no path at all. -/
theorem isReported_unreachable {path : Text} {fault : PathFault} (h : fault ≠ .nullCharacter) :
    (ReadError.unreachable path fault).isReported = true := by
  cases fault with
  | nullCharacter => exact absurd rfl h
  | _ => rfl

/-- A vocabulary that cannot be loaded is reported, unless its path can be no path at all. -/
theorem unloadable_eq_failure {fs : FileSystem} (htext : fs.HoldsText) {path : Option Text}
    {e : Vocabulary.LoadError} (hload : Vocabulary.loadOrPackaged fs path = .error e)
    (h : ∀ path, e ≠ .unreadable (.unreachable path .nullCharacter)) :
    Outcome.unloadable e = .failure e.message := by
  cases e with
  | malformed path fault => rfl
  | unreadable e =>
    unfold Vocabulary.loadOrPackaged at hload
    split at hload
    · simp at hload
    · simp at hload
    · unfold Vocabulary.load at hload
      split at hload
      · rename_i hread
        rcases htext.exists_fault hread with ⟨fault, rfl⟩
        simp only [Except.error.injEq, Vocabulary.LoadError.unreadable.injEq] at hload
        subst hload
        have hfault : fault ≠ .nullCharacter := by
          rintro rfl
          exact h _ rfl
        exact unreadable_unreachable (isReported_unreachable hfault)
      · rename_i text _
        cases hparse : Vocabulary.parse text <;> simp [hparse, Except.mapError] at hload

theorem stdout_unloadable (e : Vocabulary.LoadError) : (Outcome.unloadable e).stdout = [] := by
  cases e with
  | malformed path fault => rfl
  | unreadable e =>
    cases e with
    | undecodable e => rfl
    | unreachable path fault => cases fault <;> rfl

/-- A run over files. If the vocabulary can be loaded and all files can be read, what is printed for
them is printed in order, and the status is 0. The first file that cannot be read ends the run: what
is printed for the files in front of it is printed, the error is reported and the status is 1. If
the vocabulary cannot be loaded, that is reported and nothing is printed. A path with a null
character, which no command line can hold, ends the run in the same place, but without a report. -/
theorem run_files {arguments : List Text} {r : Request}
    (harguments : Request.ofArguments arguments = .ok r) (htest : r.test = false)
    (hrules : r.rules = false) (hinteractive : r.interactive = false) (hfiles : r.files ≠ [])
    (world : World) (htext : world.files.HoldsText) :
    (∀ sets, Vocabulary.loadOrPackaged world.files r.vocab = .ok sets →
      ∃ table, RuleTable.build sets = .ok table ∧
        ((∀ name ∈ world.files.expandAll r.files, ∃ text, world.files.read name = .ok text) →
          ∃ printed,
            List.Forall₂ (Prints world.files table r.format (world.files.displayName r.files))
              (world.files.expandAll r.files) printed ∧
            run arguments world = ⟨printed.flatten, r.log world.files, .exit 0⟩) ∧
        (∀ before name later e, world.files.expandAll r.files = before ++ name :: later →
          (∀ earlier ∈ before, ∃ text, world.files.read earlier = .ok text) →
          world.files.read name = .error e →
          ∃ fault printed, e = .unreachable name fault ∧
            List.Forall₂ (Prints world.files table r.format (world.files.displayName r.files))
              before printed ∧
            (fault ≠ .nullCharacter → run arguments world =
              ⟨printed.flatten, r.log world.files ++
                Text.endLine ("*** Error *** " ++ fault.message name), .exit 1⟩) ∧
            (fault = .nullCharacter → run arguments world =
              ⟨printed.flatten, r.log world.files, .crash (.unreadable e)⟩))) ∧
    (∀ e, Vocabulary.loadOrPackaged world.files r.vocab = .error e →
      (run arguments world).stdout = [] ∧
      ((∀ path, e ≠ .unreadable (.unreachable path .nullCharacter)) →
        run arguments world = ⟨[], Text.endLine ("*** Error *** " ++ e.message), .exit 1⟩)) := by
  constructor
  · -- the sets that have been loaded have a table, with which every text can be shown
    intro sets hload
    rcases RuleTable.exists_build (usable_of_loadOrPackaged hload) with ⟨table, hbuild, known⟩
    have hrun := run_eq_showFiles harguments htest hrules hinteractive hfiles world hload hbuild
    refine ⟨table, hbuild, ?_, ?_⟩
    · intro hreadable
      rcases exists_prints known hreadable with ⟨printed, hprinted⟩
      refine ⟨printed, hprinted, ?_⟩
      rw [hrun, showFiles_of_prints hprinted, Outcome.success, Outcome.logging, List.append_nil]
    · intro before name later e hnames hbefore he
      rcases htext.exists_fault he with ⟨fault, rfl⟩
      rcases exists_prints known hbefore with ⟨printed, hprinted⟩
      rw [hnames, showFiles_of_error hprinted he] at hrun
      refine ⟨fault, printed, rfl, hprinted, ?_, ?_⟩
      · intro hfault
        rw [hrun, unreadable_unreachable (isReported_unreachable hfault), Outcome.failure,
          Outcome.printing, Outcome.logging, List.append_nil]
      · rintro rfl
        rw [hrun, Outcome.unreadable, Outcome.crashed, Outcome.printing, Outcome.logging,
          List.append_nil, List.append_nil]
  · intro e hload
    have hrun := run_of_unloadable harguments htest world hload
    refine ⟨by rw [hrun, stdout_unloadable], fun h => ?_⟩
    rw [hrun, unloadable_eq_failure htext hload h, Outcome.failure]

/-- Of three files, the second one is missing. -/
theorem run_files_missing :
    let files : FileSystem := fun path =>
      if path = "v" then .ok (.file (("w:type\x7bx\x7d" : Text).map fun c => c.toNat.toUInt8))
      else if path = "a.mlog" ∨ path = "c.mlog" then .ok (.file [0x78, 0x0A])
      else .error .notFound
    let r : Request := { files := ["a.mlog", "b.mlog", "c.mlog"], vocab := some "v" }
    Request.ofArguments ["--vocab=v", "a.mlog", "b.mlog", "c.mlog"] = .ok r ∧ r.test = false ∧
      r.rules = false ∧ r.interactive = false ∧ r.files ≠ [] ∧ files.HoldsText ∧
      run ["--vocab=v", "a.mlog", "b.mlog", "c.mlog"] ⟨("" : Text), false, files⟩ =
        ⟨"a.mlog:1:0-1: type 'x'\n",
          "*** Error *** [Errno 2] No such file or directory: 'b.mlog'\n", .exit 1⟩ := by
  intro files r
  have harguments : Request.ofArguments ["--vocab=v", "a.mlog", "b.mlog", "c.mlog"] = .ok r := by
    decide
  have htext : files.HoldsText := by
    intro path octets hfile
    simp only [files] at hfile
    split at hfile
    · obtain rfl := Node.file.inj (Except.ok.inj hfile)
      exact ⟨_, rfl⟩
    · split at hfile
      · obtain rfl := Node.file.inj (Except.ok.inj hfile)
        exact ⟨_, rfl⟩
      · simp at hfile
  have hload : Vocabulary.loadOrPackaged files r.vocab = .ok [⟨"w", "type", "none", ["x"]⟩] := by
    decide
  have hfirst : ∀ earlier ∈ (["a.mlog"] : List Text), ∃ text, files.read earlier = .ok text := by
    intro earlier hearlier
    rw [List.mem_singleton.mp hearlier]
    exact ⟨"x\n", by decide⟩
  rcases (run_files harguments rfl rfl rfl (List.cons_ne_nil _ _) ⟨("" : Text), false, files⟩
    htext).1 _ hload with ⟨table, hbuild, -, hmissing⟩
  rcases hmissing ["a.mlog"] "b.mlog" ["c.mlog"] (.unreachable "b.mlog" .notFound) (by decide) hfirst
    (by decide) with ⟨fault, printed, hfault, hprinted, hrun, -⟩
  obtain rfl : PathFault.notFound = fault := (ReadError.unreachable.inj hfault).2
  rw [hrun (by decide)]
  -- what is printed for the first file, by the table for the vocabulary
  cases hprinted with
  | cons hprint hnone =>
    cases hnone
    rcases hprint with ⟨text, hread, hrender⟩
    have hcontent : files.read "a.mlog" = .ok "x\n".toList := by decide
    obtain rfl := Except.ok.inj (hcontent.symm.trans hread)
    obtain rfl := Except.ok.inj hbuild
    obtain rfl := Except.ok.inj hrender
    refine ⟨harguments, rfl, rfl, rfl, List.cons_ne_nil _ _, htext, ?_⟩
    decide

end CommandLine

end MlogHighlight
