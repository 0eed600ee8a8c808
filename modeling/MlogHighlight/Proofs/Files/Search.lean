import Mathlib.Data.List.Nodup
import Mathlib.Data.List.Sort
import MlogHighlight.Proofs.Files.Tree
import MlogHighlight.Proofs.Run

/-!
# The search for source files

A directory stands for the source files in it and below it. Its own files come first, then those of
its subdirectories one after the other, and both are ordered by name, so the order in which
directories list their entries is not noticed. Main facts:

* `Text.precedes_iff`: texts are sorted by code point, character by character;
* `Node.sources_directory`: the files of a directory in front of those of its subdirectories;
* `Node.mem_sources_iff`: the source files of a directory are those that names lead to;
* `Node.sources_nodup`: each source file is there once;
* `Node.SameTree.sources`: the order of the entries is not noticed;
* `FileSystem.expand_directory`: what a path stands for.
-/

namespace MlogHighlight

open Text

/-! ## Sorted names -/

namespace Text

theorem precedes_iff {s t : Text} : precedes s t = true ↔ s = t ∨ s < t := by
  induction s generalizing t with
  | nil => cases t <;> simp [precedes]
  | cons a s ih =>
    cases t with
    | nil => simp [precedes]
    | cons b t =>
      simp only [precedes, Bool.or_eq_true, Bool.and_eq_true, decide_eq_true_eq, beq_iff_eq, ih,
        List.cons.injEq, List.cons_lt_cons_iff]
      tauto

theorem precedes_trans (s t u : Text) (hst : precedes s t = true) (htu : precedes t u = true) :
    precedes s u = true := by
  rw [precedes_iff] at *
  rcases hst with rfl | hst
  · exact htu
  · rcases htu with rfl | htu
    · exact Or.inr hst
    · exact Or.inr (List.lt_trans hst htu)

theorem precedes_total (s t : Text) : (precedes s t || precedes t s) = true := by
  induction s generalizing t with
  | nil => rfl
  | cons a s ih =>
    cases t with
    | nil => rfl
    | cons b t =>
      have hrest := ih t
      rw [Bool.or_eq_true] at hrest
      rcases Std.lt_trichotomy a b with hlt | rfl | hlt
      · simp [precedes, hlt]
      · simpa [precedes] using hrest
      · simp [precedes, hlt]

theorem mem_mergeSort_precedes {names : List Text} {name : Text} :
    name ∈ names.mergeSort precedes ↔ name ∈ names :=
  (List.mergeSort_perm names precedes).mem_iff

/-- Different names are sorted strictly. -/
theorem pairwise_mergeSort_precedes {names : List Text} (h : names.Nodup) :
    (names.mergeSort precedes).Pairwise (· < ·) := by
  have hsorted := List.pairwise_mergeSort precedes_trans precedes_total names
  have hdifferent : (names.mergeSort precedes).Pairwise (· ≠ ·) :=
    (List.mergeSort_perm names precedes).nodup_iff.mpr h
  refine hsorted.imp₂ ?_ hdifferent
  intro a b hle hne
  exact (precedes_iff.mp hle).resolve_left hne

/-- Names that are sorted strictly are known from their members. -/
theorem eq_of_pairwise_lt {names names' : List Text} (h : names.Pairwise (· < ·))
    (h' : names'.Pairwise (· < ·)) (hmem : ∀ name, name ∈ names ↔ name ∈ names') :
    names = names' := by
  have hperm := (List.perm_ext_iff_of_nodup (h.imp Std.ne_of_lt) (h'.imp Std.ne_of_lt)).mpr hmem
  exact hperm.eq_of_pairwise (fun a b _ _ hab hba => absurd hba (List.lt_asymm hab)) h h'

end Text

/-- The text ends like the name of a source file. -/
def Recognition.NamesSource (name : Text) : Prop :=
  (".mlog" : Text) <:+ name ∨ (".masm" : Text) <:+ name

/-- A name without a slash is its own last component. -/
theorem Recognition.isSourceName_iff {name : Text} (h : '/' ∉ name) :
    isSourceName name = true ↔ NamesSource name := by
  have hreverse : '/' ∉ name.reverse := by
    rw [List.mem_reverse]
    exact h
  have hbase : baseName name = name := by
    have htake := takeWhile_append_of_run (all_ne_of_notMem hreverse) stops_nil
    rw [List.append_nil] at htake
    rw [baseName, htake, List.reverse_reverse]
  simp [isSourceName, NamesSource, extensions, hbase]

namespace Node

variable {entries : List (Text × Node)} {node : Node} {path name file : Text}

/-! ## Paths of entries -/

theorem entryPath_injective (path : Text) : Function.Injective (entryPath path) := by
  intro s t h
  unfold entryPath at h
  split at h
  · exact List.append_cancel_left h
  · exact (List.cons.inj (List.append_cancel_left h)).2

/-- The path of an entry ends in its name, and so in no slash. -/
theorem getLast?_entryPath_ne (hname : IsName name) (path : Text) :
    (entryPath path name).getLast? ≠ some '/' := by
  have hlast : (entryPath path name).getLast? = name.getLast? := by
    unfold entryPath
    split
    · exact List.getLast?_append_of_ne_nil _ hname.ne_nil
    · rw [List.getLast?_append_of_ne_nil _ (List.cons_ne_nil _ _)]
      exact List.getLast?_append_of_ne_nil ['/'] hname.ne_nil
  rw [hlast]
  exact fun h => hname.slash_notMem (List.mem_of_getLast? h)

/-- The path of an entry of an entry. -/
theorem entryPath_entryPath (hname : IsName name) (path rest : Text) :
    entryPath (entryPath path name) rest = entryPath path (name ++ '/' :: rest) := by
  rw [entryPath, if_neg (getLast?_entryPath_ne hname path)]
  unfold entryPath
  split <;> simp

theorem entryPath_join_cons (hname : IsName name) {names : List Text} (hne : names ≠ [])
    (path : Text) : entryPath (entryPath path name) (join ['/'] names) =
      entryPath path (join ['/'] (name :: names)) := by
  rw [entryPath_entryPath hname, join_cons hne]

/-- Names are known from the path that they make up. -/
theorem entryPath_join_injective {names names' : List Text} (hnames : ∀ name ∈ names, IsName name)
    (hnames' : ∀ name ∈ names', IsName name) (hne : names ≠ []) (hne' : names' ≠ [])
    (h : entryPath path (join ['/'] names) = entryPath path (join ['/'] names')) :
    names = names' := by
  have hjoin := entryPath_injective path h
  rw [← split_join hne fun name hname => (hnames name hname).slash_notMem, hjoin,
    split_join hne' fun name hname => (hnames' name hname).slash_notMem]

/-! ## The entries of a directory -/

/-- The names of the directories among entries, by code point. -/
def directoryNames (entries : List (Text × Node)) : List Text :=
  ((entries.filter (·.2.isDirectory)).map (·.1)).mergeSort precedes

/-- The source files below the entry of a name. -/
def sourcesBelow (path : Text) (entries : List (Text × Node)) (name : Text) : List Text :=
  (entries.lookup name).elim [] (sources (entryPath path name))

theorem mem_sourceNames : name ∈ sourceNames entries ↔
    (∃ octets, (name, .file octets) ∈ entries) ∧ Recognition.isSourceName name = true := by
  unfold sourceNames
  rw [mem_mergeSort_precedes]
  simp only [List.mem_map, List.mem_filter, Bool.and_eq_true, Bool.not_eq_true']
  constructor
  · rintro ⟨⟨_, node⟩, ⟨hmem, hfile, hname⟩, rfl⟩
    cases node with
    | file octets => exact ⟨⟨octets, hmem⟩, hname⟩
    | directory entries => exact Bool.noConfusion hfile
  · rintro ⟨⟨octets, hmem⟩, hname⟩
    exact ⟨(name, .file octets), ⟨hmem, rfl, hname⟩, rfl⟩

theorem mem_directoryNames : name ∈ directoryNames entries ↔
    ∃ below, (name, .directory below) ∈ entries := by
  unfold directoryNames
  rw [mem_mergeSort_precedes]
  simp only [List.mem_map, List.mem_filter]
  constructor
  · rintro ⟨⟨_, node⟩, ⟨hmem, hdirectory⟩, rfl⟩
    cases node with
    | file octets => exact Bool.noConfusion hdirectory
    | directory below => exact ⟨below, hmem⟩
  · rintro ⟨below, hmem⟩
    exact ⟨(name, .directory below), ⟨hmem, rfl⟩, rfl⟩

theorem sourceNames_pairwise (h : (entries.map (·.1)).Nodup) :
    (sourceNames entries).Pairwise (· < ·) :=
  pairwise_mergeSort_precedes (h.sublist (List.filter_sublist.map _))

theorem directoryNames_pairwise (h : (entries.map (·.1)).Nodup) :
    (directoryNames entries).Pairwise (· < ·) :=
  pairwise_mergeSort_precedes (h.sublist (List.filter_sublist.map _))

theorem entrySources_eq_map (path : Text) (entries : List (Text × Node)) :
    entrySources path entries = (entries.filter (·.2.isDirectory)).map fun e =>
      (e.1, sources (entryPath path e.1) e.2) := by
  induction entries with
  | nil => rfl
  | cons e entries ih =>
    rcases e with ⟨name, node⟩
    cases hdirectory : node.isDirectory <;> simp [entrySources, hdirectory, ih]

/-- The source files of a directory: its own, and behind them those below its subdirectories. -/
theorem sources_directory (h : (Node.directory entries).Proper) (path : Text) :
    (Node.directory entries).sources path = (sourceNames entries).map (entryPath path) ++
      (directoryNames entries).flatMap (sourcesBelow path entries) := by
  have hbelow : entrySources path entries =
      ((entries.filter (·.2.isDirectory)).map (·.1)).map fun name =>
        (name, sourcesBelow path entries name) := by
    rw [entrySources_eq_map, List.map_map]
    apply List.map_congr_left
    rintro ⟨name, node⟩ hmem
    have hlookup := (lookup_eq_some_iff h.nodup).mpr (List.mem_filter.mp hmem).1
    simp [sourcesBelow, hlookup]
  have hsort := List.map_mergeSort (r := precedes) (s := fun a b => precedes a.1 b.1)
    (f := fun name => (name, sourcesBelow path entries name))
    (l := (entries.filter (·.2.isDirectory)).map (·.1)) fun _ _ _ _ => rfl
  rw [sources, hbelow, ← hsort, List.flatMap_map]
  rfl

theorem mem_sourcesBelow (h : (Node.directory entries).Proper) (path file : Text) :
    (∃ name ∈ directoryNames entries, file ∈ sourcesBelow path entries name) ↔
      ∃ name below, (name, .directory below) ∈ entries ∧
        file ∈ (Node.directory below).sources (entryPath path name) := by
  constructor
  · rintro ⟨name, hname, hfile⟩
    rcases mem_directoryNames.mp hname with ⟨below, hbelow⟩
    rw [sourcesBelow, (lookup_eq_some_iff h.nodup).mpr hbelow] at hfile
    exact ⟨name, below, hbelow, hfile⟩
  · rintro ⟨name, below, hbelow, hfile⟩
    refine ⟨name, mem_directoryNames.mpr ⟨below, hbelow⟩, ?_⟩
    rw [sourcesBelow, (lookup_eq_some_iff h.nodup).mpr hbelow]
    exact hfile

/-! ## What is found -/

/-- The source files of a directory are those that names lead to, at the paths that the names make
up. -/
theorem mem_sources_iff (h : node.Proper) (path file : Text) :
    file ∈ node.sources path ↔ ∃ names last octets,
      node.Leads (names ++ [last]) (.file octets) ∧ Recognition.isSourceName last = true ∧
        file = entryPath path (join ['/'] (names ++ [last])) := by
  induction node using tree_induction generalizing path with
  | file octets =>
    constructor
    · intro hfile
      exact absurd hfile List.not_mem_nil
    · rintro ⟨names, last, octets', hleads, -⟩
      generalize hnames : names ++ [last] = all at hleads
      cases hleads with
      | here => simp at hnames
  | directory entries ih =>
    rw [sources_directory h, List.mem_append, List.mem_map, List.mem_flatMap, mem_sourcesBelow h]
    constructor
    · rintro (⟨name, hname, rfl⟩ | ⟨name, below, hbelow, hfile⟩)
      · -- a file of the directory itself has one name
        rcases mem_sourceNames.mp hname with ⟨⟨octets, hmem⟩, hname⟩
        exact ⟨[], name, octets, Leads.entry hmem (Leads.here _), hname, rfl⟩
      · -- the name of the entry stands in front of the names below it
        rcases h.entry hbelow with ⟨hname, hproper⟩
        rcases (ih _ hbelow hproper _).mp hfile with ⟨names, last, octets, hleads, hlast, rfl⟩
        refine ⟨name :: names, last, octets, Leads.entry hbelow hleads, hlast, ?_⟩
        exact entryPath_join_cons hname (by simp) path
    · rintro ⟨names, last, octets, hleads, hlast, rfl⟩
      cases names with
      | nil =>
        cases hleads with
        | entry hmem hrest =>
          cases hrest with
          | here => exact Or.inl ⟨last, mem_sourceNames.mpr ⟨⟨octets, hmem⟩, hlast⟩, rfl⟩
      | cons name names =>
        rw [List.cons_append] at hleads
        cases hleads with
        | @entry _ _ child _ _ hmem hrest =>
          rcases h.entry hmem with ⟨hname, hproper⟩
          have hne : names ++ [last] ≠ [] := by simp
          have hpath := (entryPath_join_cons hname hne path).symm
          have hfile := (ih _ hmem hproper (entryPath path name)).mpr
            ⟨names, last, octets, hrest, hlast, hpath⟩
          cases child with
          | file _ => exact absurd hfile List.not_mem_nil
          | directory below => exact Or.inr ⟨name, below, hmem, hfile⟩

/-- A source file below an entry is at a path that begins with the name of the entry. -/
theorem exists_names_of_mem_sourcesBelow (h : (Node.directory entries).Proper)
    (hfile : file ∈ sourcesBelow path entries name) :
    ∃ names, (∀ n ∈ name :: names, IsName n) ∧ names ≠ [] ∧
      file = entryPath path (join ['/'] (name :: names)) := by
  rw [sourcesBelow] at hfile
  cases hlookup : entries.lookup name with
  | none =>
    rw [hlookup] at hfile
    exact absurd hfile List.not_mem_nil
  | some child =>
    rw [hlookup] at hfile
    rcases h.entry ((lookup_eq_some_iff h.nodup).mp hlookup) with ⟨hname, hproper⟩
    rcases (mem_sources_iff hproper _ _).mp hfile with ⟨names, last, octets, hleads, -, rfl⟩
    refine ⟨names ++ [last], ?_, by simp, ?_⟩
    · exact List.forall_mem_cons.mpr ⟨hname, hleads.isName hproper⟩
    · exact entryPath_join_cons hname (by simp) path

/-- No source file is found twice. -/
theorem sources_nodup (h : node.Proper) (path : Text) : (node.sources path).Nodup := by
  induction node using tree_induction generalizing path with
  | file octets => exact List.nodup_nil
  | directory entries ih =>
    rw [sources_directory h, List.nodup_append]
    refine ⟨?_, ?_, ?_⟩
    · have hnames : (sourceNames entries).Nodup :=
        (sourceNames_pairwise h.nodup).imp fun hlt => Std.ne_of_lt hlt
      exact hnames.map (entryPath_injective path)
    · rw [List.nodup_flatMap]
      constructor
      · intro name hname
        rcases mem_directoryNames.mp hname with ⟨below, hbelow⟩
        rw [sourcesBelow, (lookup_eq_some_iff h.nodup).mpr hbelow]
        exact ih _ hbelow (h.entry hbelow).2 _
      · -- paths below different entries begin with different names
        refine (directoryNames_pairwise h.nodup).imp ?_
        intro name name' hlt file hfile hfile'
        rcases exists_names_of_mem_sourcesBelow h hfile with ⟨names, hnames, -, rfl⟩
        rcases exists_names_of_mem_sourcesBelow h hfile' with ⟨names', hnames', -, hpath⟩
        have heq := entryPath_join_injective hnames hnames' (by simp) (by simp) hpath
        exact Std.ne_of_lt hlt (List.cons.inj heq).1
    · -- a path below an entry has more than one name
      intro file hfile file' hfile' heq
      rcases List.mem_map.mp hfile with ⟨name, hname, rfl⟩
      rcases List.mem_flatMap.mp hfile' with ⟨name', -, hbelow⟩
      rcases exists_names_of_mem_sourcesBelow h hbelow with ⟨names, hnames, hne, rfl⟩
      rcases mem_sourceNames.mp hname with ⟨⟨octets, hmem⟩, -⟩
      have hsingle : ∀ n ∈ [name], IsName n := by
        simpa using (h.entry hmem).1
      have hlist := entryPath_join_injective hsingle hnames (by simp) (by simp) heq
      exact hne (List.cons.inj hlist).2.symm

namespace SameTree

variable {node' : Node} {entries' : List (Text × Node)}

theorem exists_file (h : SameTree (.directory entries) (.directory entries'))
    (hfile : ∃ octets, (name, .file octets) ∈ entries) :
    ∃ octets, (name, .file octets) ∈ entries' := by
  rcases hfile with ⟨octets, hmem⟩
  cases h with
  | directory _ _ hperm hsame =>
    rcases exists_mem hperm hmem with ⟨child, hchild⟩
    cases hsame name _ _ hmem hchild with
    | file _ => exact ⟨octets, hchild⟩

theorem exists_directory (h : SameTree (.directory entries) (.directory entries'))
    (hdirectory : ∃ below, (name, .directory below) ∈ entries) :
    ∃ below, (name, .directory below) ∈ entries' := by
  rcases hdirectory with ⟨below, hmem⟩
  cases h with
  | directory _ _ hperm hsame =>
    rcases exists_mem hperm hmem with ⟨child, hchild⟩
    cases hsame name _ _ hmem hchild with
    | directory _ below' _ _ => exact ⟨below', hchild⟩

/-- The order in which directories list their entries is not noticed. -/
theorem sources (h : SameTree node node') (hproper : node.Proper) (path : Text) :
    node.sources path = node'.sources path := by
  induction h generalizing path with
  | file octets => rfl
  | directory entries entries' hperm hsame ih =>
    have hsameDirectory := SameTree.directory entries entries' hperm hsame
    have hproper' := hsameDirectory.proper hproper
    have hsourceNames : sourceNames entries = sourceNames entries' := by
      apply eq_of_pairwise_lt (sourceNames_pairwise hproper.nodup)
        (sourceNames_pairwise hproper'.nodup)
      intro name
      rw [mem_sourceNames, mem_sourceNames]
      exact and_congr_left fun _ => ⟨hsameDirectory.exists_file, hsameDirectory.symm.exists_file⟩
    have hdirectoryNames : directoryNames entries = directoryNames entries' := by
      apply eq_of_pairwise_lt (directoryNames_pairwise hproper.nodup)
        (directoryNames_pairwise hproper'.nodup)
      intro name
      rw [mem_directoryNames, mem_directoryNames]
      exact ⟨hsameDirectory.exists_directory, hsameDirectory.symm.exists_directory⟩
    rw [sources_directory hproper, sources_directory hproper', hsourceNames, hdirectoryNames]
    congr 1
    apply List.flatMap_congr
    intro name _
    rcases hsameDirectory.lookup hproper name with ⟨hnone, hnone'⟩ | ⟨child, child', hchild, hchild', -⟩
    · rw [sourcesBelow, sourcesBelow, hnone, hnone']
    · have hmem := (lookup_eq_some_iff hproper.nodup).mp hchild
      have hmem' := (lookup_eq_some_iff hproper'.nodup).mp hchild'
      rw [sourcesBelow, sourcesBelow, hchild, hchild']
      exact ih name child child' hmem hmem' (hproper.entry hmem).2 _

end SameTree

end Node

namespace FileSystem

open Node

variable {root root' : Node} {entries : List (Text × Node)} {path : Text}

theorem expand_of_directory (h : root.find path = .ok (.directory entries)) :
    (ofTree root).expand path = (Node.directory entries).sources path := by
  rw [expand, ofTree, h]

/-- A path that is no directory stands for itself. -/
theorem expand_of_not_isDirectory {fs : FileSystem} (h : fs.isDirectory path = false) :
    fs.expand path = [path] := by
  unfold isDirectory at h
  unfold expand
  split
  · rename_i hpath
    rw [hpath] at h
    exact Bool.noConfusion h
  · rfl

/-- The files of a directory come first, and then what its subdirectories stand for. -/
theorem expand_directory (hroot : root.Proper) (h : root.find path = .ok (.directory entries)) :
    (ofTree root).expand path = (sourceNames entries).map (entryPath path) ++
      (directoryNames entries).flatMap fun name => (ofTree root).expand (entryPath path name) := by
  have hproper := hroot.find h
  rw [expand_of_directory h, sources_directory hproper]
  congr 1
  apply List.flatMap_congr
  intro name hname
  rcases mem_directoryNames.mp hname with ⟨below, hbelow⟩
  have hfind := find_of_leads h hproper (List.cons_ne_nil _ _) (Leads.entry hbelow (Leads.here _))
  rw [sourcesBelow, (lookup_eq_some_iff hproper.nodup).mpr hbelow]
  exact (expand_of_directory hfind).symm

/-- Paths stand for the same in trees that are the same but for the order of entries. -/
theorem expand_sameTree (hroot : root.Proper) (h : root.SameTree root') (path : Text) :
    (ofTree root').expand path = (ofTree root).expand path := by
  have hagree := h.find hroot path
  unfold expand ofTree
  cases hfind : root.find path with
  | error fault =>
    rw [hfind] at hagree
    generalize root'.find path = found at hagree
    cases hagree with
    | fault _ => rfl
  | ok node =>
    have hproper := hroot.find hfind
    rw [hfind] at hagree
    generalize root'.find path = found at hagree
    cases hagree with
    | found hsame =>
      have hsources := hsame.sources hproper path
      cases hsame with
      | file octets => rfl
      | directory entries entries' _ _ => exact hsources.symm

/-- Every path to a directory of a proper tree stands for the source files in it and below it, and no
others: those that the names of entries lead to, at the paths that these names make up, where they
are found as well. Each is there once. The files of the directory itself come first, by code point,
and behind them what its subdirectories stand for, one after the other by code point. A path that is
no directory stands for itself, and several paths stand for what each of them does. The order in
which directories list their entries is not noticed. -/
theorem expandAll_tree (hroot : root.Proper) :
    (∀ path entries, root.find path = .ok (.directory entries) →
      (∀ file, file ∈ (ofTree root).expand path ↔ ∃ names last octets,
        (Node.directory entries).Leads (names ++ [last]) (.file octets) ∧
          Recognition.NamesSource last ∧
          file = entryPath path (join ['/'] (names ++ [last]))) ∧
      (∀ names target, names ≠ [] → (Node.directory entries).Leads names target →
        root.find (entryPath path (join ['/'] names)) = .ok target) ∧
      ((ofTree root).expand path).Nodup ∧
      ∃ files directories : List Text,
        files.Pairwise (· < ·) ∧ directories.Pairwise (· < ·) ∧
        (∀ name, name ∈ files ↔
          (∃ octets, (name, .file octets) ∈ entries) ∧ Recognition.NamesSource name) ∧
        (∀ name, name ∈ directories ↔ ∃ below, (name, .directory below) ∈ entries) ∧
        (ofTree root).expand path = files.map (entryPath path) ++
          directories.flatMap fun name => (ofTree root).expand (entryPath path name)) ∧
      (∀ path, (ofTree root).isDirectory path = false → (ofTree root).expand path = [path]) ∧
      (∀ paths, (ofTree root).expandAll paths = paths.flatMap (ofTree root).expand) ∧
      ∀ root', root.SameTree root' → (ofTree root').expandAll = (ofTree root).expandAll := by
  refine ⟨?_, fun path => expand_of_not_isDirectory, fun paths => rfl, ?_⟩
  · intro path entries hpath
    have hproper := hroot.find hpath
    refine ⟨?_, ?_, ?_, sourceNames entries, directoryNames entries, ?_⟩
    · intro file
      rw [expand_of_directory hpath, mem_sources_iff hproper]
      refine exists_congr fun names => exists_congr fun last => exists_congr fun octets =>
        and_congr_right fun hleads => and_congr_left fun _ => ?_
      exact Recognition.isSourceName_iff (hleads.isName hproper last (by simp)).slash_notMem
    · intro names target hne hleads
      exact find_of_leads hpath hproper hne hleads
    · rw [expand_of_directory hpath]
      exact sources_nodup hproper path
    · refine ⟨sourceNames_pairwise hproper.nodup, directoryNames_pairwise hproper.nodup, ?_,
        fun name => mem_directoryNames, expand_directory hroot hpath⟩
      intro name
      rw [mem_sourceNames]
      refine and_congr_right fun hfile => ?_
      rcases hfile with ⟨octets, hmem⟩
      exact Recognition.isSourceName_iff (hproper.entry hmem).1.slash_notMem
  · intro root' hsame
    funext paths
    rw [expandAll, expandAll]
    exact List.flatMap_congr fun path _ => expand_sameTree hroot hsame path

/-- A directory that is named like a source file, in a tree that is listed in two orders. -/
theorem expandAll_tree_masm :
    ∃ root root' : Node, root.Proper ∧ root.SameTree root' ∧
      (ofTree root').expandAll ["x", "./"] =
        ["x", "./b.mlog", "./a.masm/c.mlog", "./a.masm/d.mlog"].map String.toList := by
  have hleaf : ∀ octets, (Node.file octets).Proper := Proper.file
  have hbelow : (Node.directory [("d.mlog", .file []), ("c.mlog", .file [10])]).Proper :=
    .directory _ (by decide) (by decide)
      (List.forall_mem_cons.mpr ⟨hleaf [], List.forall_mem_cons.mpr ⟨hleaf [10], by simp⟩⟩)
  have hroot : (Node.directory [("b.mlog", .file []), ("a.masm", .directory
      [("d.mlog", .file []), ("c.mlog", .file [10])])]).Proper :=
    .directory _ (by decide) (by decide)
      (List.forall_mem_cons.mpr ⟨hleaf [], List.forall_mem_cons.mpr ⟨hbelow, by simp⟩⟩)
  have hsame := SameTree.of_perm hroot (List.Perm.swap _ _ _) fun e he =>
    SameTree.refl (hroot.entry he).2
  refine ⟨_, _, hroot, hsame, ?_⟩
  rw [(expandAll_tree hroot).2.2.2 _ hsame]
  simp [expandAll, expand, ofTree, Node.find, split, follow, step, sources, entrySources, sourceNames,
    Node.isDirectory, entryPath, Recognition.isSourceName, Recognition.baseName,
    Recognition.extensions, List.mergeSort, precedes, List.lookup_cons]

end FileSystem

end MlogHighlight
