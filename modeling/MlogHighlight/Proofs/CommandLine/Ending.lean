import MlogHighlight.CommandLine.Run
import MlogHighlight.Proofs.Vocabulary.Acceptance

/-!
# How a run of the program ends

A run reads a vocabulary and then, depending on what is asked for, files or the standard input. Once
the vocabulary is loaded nothing but these inputs can fail, so the first input that cannot be used
decides how the run ends. Main facts:

* `Answers.logging`, `Answers.printing`: what is logged and printed before does not change the end;
* `showFiles_answers`: files are shown up to the first one that cannot be read;
* `fulfil_answers`: a run succeeds, reports the first failure, or ends without a report;
* `run_ending`: what this says of command lines;
* `run_undecodable`: a file that is not UTF-8 is a failure that is not reported.
-/

namespace MlogHighlight

/-- Does the program report the error? It does if the system refuses the path; a path that can be no
path at all and octets that are no text are not foreseen. -/
def ReadError.isReported : ReadError → Bool
  | .unreachable _ .nullCharacter | .undecodable _ => false
  | .unreachable _ _ => true

namespace CommandLine

/-! ## Failures of inputs -/

/-- An input that cannot be used: the vocabulary, a file or the standard input. -/
inductive Failure where
  | vocabulary (e : Vocabulary.LoadError)
  | file (e : ReadError)
  | input (e : InputFault)
deriving DecidableEq, Repr

namespace Failure

/-- The wording of a failure. -/
def message : Failure → Text
  | .vocabulary e => e.message
  | .file e => e.message
  | .input e => e.message

/-- Does the program report the failure? -/
def isReported : Failure → Bool
  | .vocabulary (.malformed ..) | .input (.refused ..) => true
  | .vocabulary (.unreadable e) | .file e => e.isReported
  | .input (.undecodable _) => false

/-- The line that reports a failure. -/
def report (e : Failure) : Text := Text.endLine ("*** Error *** " ++ e.message)

end Failure

/-- The failure of a file, if it cannot be read. -/
def fileFailure? (fs : FileSystem) (path : Text) : Option Failure :=
  match fs.read path with
  | .error e => some (.file e)
  | .ok _ => none

namespace Request

/-- The failures of the inputs that a request has the program read, in the order in which they would
be read. The rules are shown without any input but the vocabulary. -/
def failures (r : Request) (world : World) : List Failure :=
  (match Vocabulary.loadOrPackaged world.files r.vocab with
    | .error e => [.vocabulary e]
    | .ok _ => []) ++
  if r.rules then []
  else if r.converses world.terminal || r.files.isEmpty then
    world.stdin.fault.toList.map .input
  else (world.files.expandAll r.files).filterMap (fileFailure? world.files)

/-- What is logged about the vocabulary once it is loaded. -/
def log (r : Request) (fs : FileSystem) : Text :=
  match Vocabulary.loadOrPackaged fs r.vocab with
  | .error _ => []
  | .ok sets => if r.verbose then loadedLine sets r.vocabularySource else []

end Request

/-! ## Answers to failures -/

/-- The outcome is what the first failure asks for: success if there is none, a report and status 1,
or an end without a report. -/
inductive Answers (log : Text) : List Failure → Outcome → Prop where
  | success (stdout : Text) : Answers log [] ⟨stdout, log, .exit 0⟩
  | reported (stdout : Text) (e : Failure) (later : List Failure) : e.isReported = true →
      Answers log (e :: later) ⟨stdout, log ++ e.report, .exit 1⟩
  | crashed (stdout : Text) (e : Failure) (later : List Failure) (error : ReadError) :
      e.isReported = false → error.isReported = false → error.message = e.message →
      Answers log (e :: later) ⟨stdout, log, .crash (.unreadable error)⟩

namespace Answers

variable {log : Text} {failures : List Failure} {o : Outcome}

/-- What is printed before does not change the end. -/
theorem printing (h : Answers log failures o) (stdout : Text) :
    Answers log failures (o.printing stdout) := by
  cases h with
  | success => exact .success _
  | reported _ e later he => exact .reported _ e later he
  | crashed _ e later error he herror hmessage => exact .crashed _ e later error he herror hmessage

/-- What is logged before stands in front of the report. -/
theorem logging (h : Answers [] failures o) (log : Text) :
    Answers log failures (o.logging log) := by
  cases h with
  | success stdout =>
    rw [Outcome.logging, List.append_nil]
    exact .success stdout
  | reported stdout e later he => exact .reported stdout e later he
  | crashed stdout e later error he herror hmessage =>
    rw [Outcome.logging, List.append_nil]
    exact .crashed stdout e later error he herror hmessage

/-- Failures that come later do not matter. -/
theorem append (h : Answers log failures o) (hne : failures ≠ []) (later : List Failure) :
    Answers log (failures ++ later) o := by
  cases h with
  | success => exact absurd rfl hne
  | reported stdout e _ he => exact .reported stdout e _ he
  | crashed stdout e _ error he herror hmessage => exact .crashed stdout e _ error he herror hmessage

end Answers

/-! ## What each part of the program does about failures -/

/-- The error of a path that is refused is reported. -/
theorem unreadable_unreachable {path : Text} {fault : PathFault}
    (h : (ReadError.unreachable path fault).isReported = true) :
    Outcome.unreadable (.unreachable path fault) = .failure (fault.message path) := by
  cases fault with
  | nullCharacter => simp [ReadError.isReported] at h
  | _ => rfl

theorem unreadable_of_not_isReported {e : ReadError} (h : e.isReported = false) :
    Outcome.unreadable e = .crashed (.unreadable e) := by
  cases e with
  | undecodable e => rfl
  | unreachable path fault =>
    cases fault with
    | nullCharacter => rfl
    | _ => simp [ReadError.isReported] at h

/-- A file that cannot be read is answered as its error asks for, whatever the file is for. -/
theorem unreadable_answers {failure : Failure} {e : ReadError}
    (hreported : failure.isReported = e.isReported) (hmessage : failure.message = e.message)
    (later : List Failure) : Answers [] (failure :: later) (.unreadable e) := by
  cases he : e.isReported with
  | false =>
    rw [unreadable_of_not_isReported he]
    exact .crashed [] failure later e (hreported.trans he) he hmessage.symm
  | true =>
    cases e with
    | undecodable e => simp [ReadError.isReported] at he
    | unreachable path fault =>
      have hreport : failure.report = Text.endLine ("*** Error *** " ++ fault.message path) := by
        rw [Failure.report, hmessage]
        rfl
      rw [unreadable_unreachable he, Outcome.failure, ← hreport]
      exact .reported [] failure later (hreported.trans he)

theorem unloadable_answers (e : Vocabulary.LoadError) :
    Answers [] [.vocabulary e] (.unloadable e) := by
  cases e with
  | malformed path fault => exact .reported [] (.vocabulary (.malformed path fault)) [] rfl
  | unreadable e => exact unreadable_answers rfl rfl []

theorem interrupted_answers (fault : InputFault) :
    Answers [] [.input fault] (.interrupted fault) := by
  cases fault with
  | refused number reason => exact .reported [] (.input (.refused number reason)) [] rfl
  | undecodable e => exact .crashed [] (.input (.undecodable e)) [] (.undecodable e) rfl rfl rfl

theorem shown_answers {shown : Except HighlightError Text} (h : ∃ stdout, shown = .ok stdout) :
    Answers [] [] (.shown shown) := by
  rcases h with ⟨stdout, rfl⟩
  exact .success stdout

theorem converse_answers (table : RuleTable) (input : Input) :
    Answers [] (input.fault.toList.map .input) (converse table input) := by
  unfold converse
  cases input.fault with
  | none => exact .success _
  | some fault => exact (interrupted_answers fault).printing _

variable {table : RuleTable}

theorem showInput_answers (known : table.Known) (format : Format) (input : Input) :
    Answers [] (input.fault.toList.map .input) (showInput table format input) := by
  unfold showInput Input.read
  cases input.fault with
  | none => exact shown_answers (known.exists_render format _ _)
  | some fault => exact interrupted_answers fault

/-- Files are shown up to the first one that cannot be read. -/
theorem showFiles_answers (known : table.Known) (fs : FileSystem) (format : Format)
    (display : Text → Text) (paths : List Text) :
    Answers [] (paths.filterMap (fileFailure? fs)) (showFiles fs table format display paths) := by
  induction paths with
  | nil => exact .success []
  | cons path rest ih =>
    unfold showFiles
    cases hread : fs.read path with
    | error e =>
      rw [List.filterMap_cons_some (by rw [fileFailure?, hread])]
      exact unreadable_answers rfl rfl _
    | ok text =>
      rcases known.exists_render format (display path) text with ⟨stdout, hstdout⟩
      rw [List.filterMap_cons_none (by rw [fileFailure?, hread])]
      simp only [hstdout]
      exact ih.printing stdout

/-- With a table, only the files or the standard input can fail. -/
theorem classifyAll_answers (known : table.Known) (r : Request) (world : World) :
    Answers []
      (if r.rules then []
      else if r.converses world.terminal || r.files.isEmpty then
        world.stdin.fault.toList.map .input
      else (world.files.expandAll r.files).filterMap (fileFailure? world.files))
      (classifyAll r world table) := by
  unfold classifyAll
  by_cases hrules : r.rules = true
  · simp only [hrules, if_true]
    exact .success _
  · by_cases hconverses : r.converses world.terminal = true
    · simp only [hrules, hconverses, Bool.true_or, if_true]
      exact converse_answers table world.stdin
    · by_cases hfiles : r.files.isEmpty = true
      · simp only [hrules, hconverses, hfiles, Bool.or_true, if_true]
        exact showInput_answers known r.format world.stdin
      · simp only [hrules, hconverses, hfiles, Bool.or_self]
        exact showFiles_answers known world.files r.format _ _

/-! ## The vocabulary -/

/-- The packaged vocabulary can be used. -/
theorem usable_packaged : ∀ set ∈ Vocabulary.packaged, set.Usable := by
  have hnames : ∀ set ∈ Vocabulary.packaged, (Category.ofName? set.category).isSome = true ∧
      (Naming.Transform.ofName? set.transform).isSome = true := by decide
  intro set hset
  rcases hnames set hset with ⟨hcategory, htransform⟩
  exact ⟨Option.isSome_iff_exists.mp hcategory, Option.isSome_iff_exists.mp htransform⟩

/-- Whatever vocabulary is loaded can be used. -/
theorem usable_of_loadOrPackaged {fs : FileSystem} {path : Option Text} {sets : Vocabulary}
    (h : Vocabulary.loadOrPackaged fs path = .ok sets) : ∀ set ∈ sets, set.Usable := by
  unfold Vocabulary.loadOrPackaged at h
  split at h
  · rw [← Except.ok.inj h]
    exact usable_packaged
  · rw [← Except.ok.inj h]
    exact usable_packaged
  · rename_i path
    unfold Vocabulary.load at h
    split at h
    · simp at h
    · rename_i text _
      cases hparse : Vocabulary.parse text with
      | error fault =>
        rw [hparse] at h
        simp [Except.mapError] at h
      | ok parsed =>
        rw [hparse] at h
        obtain rfl : parsed = sets := Except.ok.inj h
        exact (Vocabulary.usable_of_parse hparse).2

/-! ## Runs -/

/-- A run succeeds, reports the first failure, or ends without a report. -/
theorem fulfil_answers {r : Request} (htest : r.test = false) (world : World) :
    Answers (r.log world.files) (r.failures world) (fulfil r world) := by
  unfold fulfil Request.table Request.log Request.failures
  rw [htest]
  cases hload : Vocabulary.loadOrPackaged world.files r.vocab with
  | error e => exact (unloadable_answers e).append (List.cons_ne_nil _ _) _
  | ok sets =>
    rcases RuleTable.exists_build (usable_of_loadOrPackaged hload) with ⟨table, hbuild, known⟩
    simp only [hbuild]
    exact (classifyAll_answers known r world).logging _

/-- How a run ends. For arguments that ask for a run, the program succeeds if all inputs it reads can
be used. If not, the first failure decides: it is reported on a line of its own and the status is 1,
or, for octets that are not UTF-8 and paths that can be no paths, there is no status and no report.
So if no failure is of the latter kind, the status is 0 or 1, and it is 1 just if an input fails. -/
theorem run_ending {arguments : List Text} {r : Request}
    (harguments : Request.ofArguments arguments = .ok r) (htest : r.test = false) (world : World) :
    (r.failures world = [] → (run arguments world).ending = .exit 0 ∧
      (run arguments world).stderr = r.log world.files) ∧
    (∀ e later, r.failures world = e :: later →
      (e.isReported = true → (run arguments world).ending = .exit 1 ∧
        (run arguments world).stderr =
          r.log world.files ++ Text.endLine ("*** Error *** " ++ e.message)) ∧
      (e.isReported = false →
        (∃ error, (run arguments world).ending = .crash error ∧ error.message = e.message) ∧
          (run arguments world).stderr = r.log world.files)) ∧
    ((∀ e ∈ r.failures world, e.isReported = true) →
      ((run arguments world).ending = .exit 0 ∨ (run arguments world).ending = .exit 1) ∧
        ((run arguments world).ending = .exit 1 ↔ r.failures world ≠ [])) := by
  have hrun : run arguments world = fulfil r world := by rw [run, harguments]
  have hanswers := fulfil_answers htest world
  rw [← hrun] at hanswers
  generalize run arguments world = o at hanswers ⊢
  generalize r.failures world = failures at hanswers ⊢
  cases hanswers with
  | success stdout => simp
  | reported stdout e later he =>
    refine ⟨by simp, ?_, ?_⟩
    · rintro e' later' ⟨⟩
      exact ⟨fun _ => ⟨rfl, rfl⟩, fun hfalse => absurd (he.symm.trans hfalse) (by decide)⟩
    · intro _
      exact ⟨Or.inr rfl, fun _ => List.cons_ne_nil _ _, fun _ => rfl⟩
  | crashed stdout e later error he herror hmessage =>
    refine ⟨by simp, ?_, ?_⟩
    · rintro e' later' ⟨⟩
      exact ⟨fun htrue => absurd (he.symm.trans htrue) (by decide),
        fun _ => ⟨⟨_, rfl, hmessage⟩, rfl⟩⟩
    · intro hall
      exact absurd (he.symm.trans (hall e (List.mem_cons_self ..))) (by decide)

/-- A vocabulary that is loaded, a file that is shown, and one that is missing. -/
theorem run_ending_missing :
    let files : FileSystem := .ofTree (.directory [("v", .file [0x61, 0x3a, 0x74, 0x79, 0x70, 0x65,
      0x7b, 0x7d]), ("a.mlog", .file [0x23])])
    let r : Request := { files := ["a.mlog", "b.mlog"], vocab := some "v", verbose := true }
    Request.ofArguments ["-v", "--vocab=v", "a.mlog", "b.mlog"] = .ok r ∧ r.test = false ∧
      (run ["-v", "--vocab=v", "a.mlog", "b.mlog"] ⟨("" : Text), false, files⟩).ending = .exit 1 ∧
      (run ["-v", "--vocab=v", "a.mlog", "b.mlog"] ⟨("" : Text), false, files⟩).stderr =
        ("mlogmode.vocab: loaded 1 vocabulary set(s) from v\n" : Text) ++
          "*** Error *** [Errno 2] No such file or directory: 'b.mlog'\n" := by
  intro files r
  have harguments : Request.ofArguments ["-v", "--vocab=v", "a.mlog", "b.mlog"] = .ok r := by decide
  have hfailures : r.failures ⟨("" : Text), false, files⟩ =
      [.file (.unreachable "b.mlog" .notFound)] := by decide
  have hending := (run_ending harguments rfl ⟨("" : Text), false, files⟩).2.1 _ _ hfailures
  refine ⟨harguments, rfl, (hending.1 rfl).1, (hending.1 rfl).2.trans ?_⟩
  decide

/-- A file that is not UTF-8 is an input that fails, but there is no status and no report. -/
theorem run_undecodable :
    let world : World := ⟨("" : Text), false, .ofTree (.directory [("x.mlog", .file [0xff])])⟩
    Request.ofArguments ["x.mlog"] = .ok { files := ["x.mlog"] } ∧
      Request.failures { files := ["x.mlog"] } world =
        [.file (.undecodable ⟨0, 1, 0xff, .invalidStart⟩)] ∧
      (∀ status, (run ["x.mlog"] world).ending ≠ .exit status) ∧
      (run ["x.mlog"] world).stderr = [] := by
  intro world
  have hrun : run ["x.mlog"] world =
      ⟨[], [], .crash (.unreadable (.undecodable ⟨0, 1, 0xff, .invalidStart⟩))⟩ := by decide
  refine ⟨by decide, by decide, ?_, ?_⟩
  · intro status
    rw [hrun]
    exact Ending.noConfusion
  · rw [hrun]

end CommandLine

end MlogHighlight
