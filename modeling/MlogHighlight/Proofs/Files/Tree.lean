import Mathlib.Data.List.Forall2
import MlogHighlight.Files.System

/-!
# Ways through a tree

In a proper tree the entries of each directory have different names, and no name can be taken for
more than one component of a path, or for a step back. The names of directories and of an entry,
put together, are a path to that entry, and lead nowhere else. Main facts:

* `Text.split_join`: components that are joined to a path are the components of the path;
* `Node.find_of_leads`: what the names of entries lead to is found at the path that they make up;
* `Node.Proper.find`: what is found in a proper tree is a proper tree;
* `Node.SameTree.find`: trees that list their entries in different orders have the same paths.
-/

namespace MlogHighlight

open Text

/-! ## Components of paths -/

namespace Text

variable {separator : Char}

theorem split_ne_nil (s : Text) : split separator s ≠ [] := by
  cases s with
  | nil => exact List.cons_ne_nil _ _
  | cons c s =>
    rw [split]
    split
    · exact List.cons_ne_nil _ _
    · split
      · exact List.cons_ne_nil _ _
      · exact List.cons_ne_nil _ _

theorem split_of_notMem {s : Text} (h : separator ∉ s) : split separator s = [s] := by
  induction s with
  | nil => rfl
  | cons c s ih =>
    rw [List.mem_cons, not_or] at h
    rw [split, if_neg (Ne.symm h.1), ih h.2]

/-- The pieces in front of a separator, and those behind it. -/
theorem split_append (front back : Text) : split separator (front ++ separator :: back) =
    split separator front ++ split separator back := by
  induction front with
  | nil => simp [split]
  | cons c front ih =>
    rw [List.cons_append, split, split, ih]
    split
    · rfl
    · cases hfront : split separator front with
      | nil => exact absurd hfront (split_ne_nil front)
      | cons piece rest => rfl

theorem join_cons {names : List Text} (hne : names ≠ []) (name : Text) :
    join [separator] (name :: names) = name ++ separator :: join [separator] names := by
  cases names with
  | nil => exact absurd rfl hne
  | cons next names => simp [join]

/-- Texts without separators are the pieces of the text that they are joined to. -/
theorem split_join {names : List Text} (hne : names ≠ [])
    (hnames : ∀ name ∈ names, separator ∉ name) :
    split separator (join [separator] names) = names := by
  induction names with
  | nil => exact absurd rfl hne
  | cons name names ih =>
    rcases List.forall_mem_cons.mp hnames with ⟨hname, hrest⟩
    by_cases hempty : names = []
    · rw [hempty, join, split_of_notMem hname]
    · rw [join_cons hempty, split_append, split_of_notMem hname, ih hempty hrest]
      rfl

theorem notMem_join {c : Char} (hc : c ≠ separator) {names : List Text}
    (hnames : ∀ name ∈ names, c ∉ name) : c ∉ join [separator] names := by
  induction names with
  | nil => exact List.not_mem_nil
  | cons name names ih =>
    rcases List.forall_mem_cons.mp hnames with ⟨hname, hrest⟩
    by_cases hempty : names = []
    · rw [hempty, join]
      exact hname
    · rw [join_cons hempty, List.mem_append, List.mem_cons, not_or, not_or]
      exact ⟨hname, hc, ih hrest⟩

end Text

namespace Node

/-! ## Proper trees -/

/-- Induction along a tree: from the entries of a directory to the directory. -/
@[elab_as_elim]
theorem tree_induction {motive : Node → Prop} (file : ∀ octets, motive (.file octets))
    (directory : ∀ entries, (∀ e ∈ entries, motive e.2) → motive (.directory entries))
    (node : Node) : motive node :=
  -- the recursor asks for what holds of a list of entries and of one entry as well
  @Node.rec motive (fun entries => ∀ e ∈ entries, motive e.2) (fun e => motive e.2) file directory
    (fun _ h => absurd h List.not_mem_nil)
    (fun _ _ he hrest => List.forall_mem_cons.mpr ⟨he, hrest⟩) (fun _ _ h => h) node

/-- The text can be the name of an entry: it is one component of a path, and not a step back or
none at all. -/
structure IsName (name : Text) : Prop where
  ne_nil : name ≠ []
  ne_dot : name ≠ ['.']
  ne_dots : name ≠ ['.', '.']
  slash_notMem : '/' ∉ name
  null_notMem : '\x00' ∉ name

instance (name : Text) : Decidable (IsName name) :=
  decidable_of_iff
    (name ≠ [] ∧ name ≠ ['.'] ∧ name ≠ ['.', '.'] ∧ '/' ∉ name ∧ '\x00' ∉ name)
    ⟨fun h => ⟨h.1, h.2.1, h.2.2.1, h.2.2.2.1, h.2.2.2.2⟩,
      fun h => ⟨h.ne_nil, h.ne_dot, h.ne_dots, h.slash_notMem, h.null_notMem⟩⟩

/-- In each directory of the tree the entries have different names. -/
inductive Proper : Node → Prop where
  | file (octets : List UInt8) : Proper (.file octets)
  | directory (entries : List (Text × Node)) : (∀ e ∈ entries, IsName e.1) →
      (entries.map (·.1)).Nodup → (∀ e ∈ entries, Proper e.2) → Proper (.directory entries)

/-- Names lead from a directory to one of its entries, on to an entry of that, and so on. -/
inductive Leads : Node → List Text → Node → Prop where
  | here (node : Node) : Leads node [] node
  | entry {entries : List (Text × Node)} {name : Text} {child target : Node} {names : List Text} :
      (name, child) ∈ entries → Leads child names target →
        Leads (.directory entries) (name :: names) target

variable {node target root : Node} {entries : List (Text × Node)} {name : Text} {names : List Text}
  {above : List Node} {path rest : Text}

theorem Proper.entry (h : (Node.directory entries).Proper) (hmem : (name, node) ∈ entries) :
    IsName name ∧ node.Proper := by
  cases h with
  | directory _ hnames _ hentries => exact ⟨hnames _ hmem, hentries _ hmem⟩

theorem Proper.nodup (h : (Node.directory entries).Proper) : (entries.map (·.1)).Nodup := by
  cases h with
  | directory _ _ hnodup _ => exact hnodup

/-- Entries with different names are found by their names. -/
theorem lookup_eq_some_iff (h : (entries.map (·.1)).Nodup) :
    entries.lookup name = some node ↔ (name, node) ∈ entries := by
  induction entries with
  | nil => simp
  | cons e entries ih =>
    rcases e with ⟨first, child⟩
    rcases List.nodup_cons.mp h with ⟨hfirst, hrest⟩
    rw [List.lookup_cons, List.mem_cons, Prod.mk.injEq]
    by_cases hname : name = first
    · have hnone : (name, node) ∉ entries := by
        intro hmem
        exact hfirst (List.mem_map.mpr ⟨(name, node), hmem, hname⟩)
      subst hname
      simp [hnone, eq_comm]
    · rw [beq_false_of_ne hname, ← ih hrest]
      simp [hname]

theorem Leads.isName (h : node.Leads names target) (hproper : node.Proper) :
    ∀ name ∈ names, IsName name := by
  induction h with
  | here => simp
  | entry hmem _ ih =>
    rcases hproper.entry hmem with ⟨hname, hchild⟩
    exact List.forall_mem_cons.mpr ⟨hname, ih hchild⟩

/-! ## Following paths -/

/-- The name of an entry leads to the entry. -/
theorem step_of_mem (h : (Node.directory entries).Proper) (hmem : (name, node) ∈ entries)
    (above : List Node) :
    step (.directory entries) above name = .ok (node, .directory entries :: above) := by
  have hname := (h.entry hmem).1
  simp [step, hname.ne_nil, hname.ne_dot, hname.ne_dots, (lookup_eq_some_iff h.nodup).mpr hmem]

theorem follow_of_leads (hproper : node.Proper) (h : node.Leads names target)
    (above : List Node) : node.follow above names = .ok target := by
  induction h generalizing above with
  | here => rfl
  | entry hmem _ ih =>
    rw [follow, step_of_mem hproper hmem]
    exact ih (hproper.entry hmem).2 _

/-- A path that can be followed to its end can be followed up to some place, and goes on from
there. -/
theorem exists_follow_append {front back : List Text}
    (h : node.follow above (front ++ back) = .ok target) :
    ∃ (middle : Node) (above' : List Node), ∀ back',
      node.follow above (front ++ back') = middle.follow above' back' := by
  induction front generalizing node above with
  | nil => exact ⟨node, above, fun _ => rfl⟩
  | cons component front ih =>
    rw [List.cons_append, follow] at h
    cases hstep : step node above component with
    | error fault =>
      simp [hstep] at h
    | ok reached =>
      rw [hstep] at h
      rcases ih h with ⟨middle, above', hmiddle⟩
      refine ⟨middle, above', fun back' => ?_⟩
      rw [List.cons_append, follow, hstep]
      exact hmiddle back'

/-- A step without a name stays where it is. -/
theorem follow_nil_component (h : node.follow above [[]] = .ok target) : node = target := by
  cases node with
  | file octets => simp [follow, step] at h
  | directory entries => exact Except.ok.inj h

/-- Below a directory, a path goes on from the directory. -/
theorem exists_find_entryPath (h : root.find path = .ok (.directory entries))
    (hrest : '\x00' ∉ rest) :
    ∃ above, root.find (entryPath path rest) =
      (Node.directory entries).follow above (split '/' rest) := by
  unfold find at h
  split at h
  · simp at h
  · rename_i hnull
    split at h
    · simp at h
    · rename_i hne
      unfold entryPath
      split
      · -- the path ends in a slash, so its last component is empty
        rename_i hslash
        rcases List.getLast?_eq_some_iff.mp hslash with ⟨front, rfl⟩
        rw [split_append] at h
        rcases exists_follow_append h with ⟨middle, above, hmiddle⟩
        rw [hmiddle] at h
        obtain rfl := follow_nil_component h
        refine ⟨above, ?_⟩
        rw [find, if_neg (by simp_all), if_neg (by simp), List.append_assoc,
          List.singleton_append, split_append, hmiddle]
      · -- the path is followed as a whole
        rw [← List.append_nil (split '/' path)] at h
        rcases exists_follow_append h with ⟨middle, above, hmiddle⟩
        rw [hmiddle] at h
        obtain rfl := Except.ok.inj h
        refine ⟨above, ?_⟩
        rw [find, if_neg (by simp_all), if_neg (by simp), split_append, hmiddle]

/-- What names lead to below a directory is found at the path that they make up. -/
theorem find_of_leads (hpath : root.find path = .ok (.directory entries))
    (hproper : (Node.directory entries).Proper) (hne : names ≠ [])
    (h : (Node.directory entries).Leads names target) :
    root.find (entryPath path (join ['/'] names)) = .ok target := by
  have hnames := h.isName hproper
  have hnull : '\x00' ∉ join ['/'] names :=
    notMem_join (by decide) fun name hname => (hnames name hname).null_notMem
  rcases exists_find_entryPath hpath hnull with ⟨above, hfind⟩
  rw [hfind, split_join hne fun name hname => (hnames name hname).slash_notMem]
  exact follow_of_leads hproper h above

/-! ## What is found in a proper tree -/

theorem Proper.step {component : Text} {reached : Node × List Node} (hproper : node.Proper)
    (habove : ∀ parent ∈ above, parent.Proper) (h : node.step above component = .ok reached) :
    reached.1.Proper ∧ ∀ parent ∈ reached.2, parent.Proper := by
  cases node with
  | file octets => simp [Node.step] at h
  | directory entries =>
    simp only [Node.step] at h
    split at h
    · obtain rfl := Except.ok.inj h
      exact ⟨hproper, habove⟩
    · split at h
      · split at h
        · obtain rfl := Except.ok.inj h
          exact ⟨hproper, habove⟩
        · obtain rfl := Except.ok.inj h
          exact List.forall_mem_cons.mp habove
      · split at h
        · rename_i child hlookup
          obtain rfl := Except.ok.inj h
          have hmem := (lookup_eq_some_iff hproper.nodup).mp hlookup
          exact ⟨(hproper.entry hmem).2, List.forall_mem_cons.mpr ⟨hproper, habove⟩⟩
        · simp at h

theorem Proper.follow {components : List Text} (hproper : node.Proper)
    (habove : ∀ parent ∈ above, parent.Proper) (h : node.follow above components = .ok target) :
    target.Proper := by
  induction components generalizing node above with
  | nil =>
    obtain rfl := Except.ok.inj h
    exact hproper
  | cons component components ih =>
    rw [Node.follow] at h
    cases hstep : node.step above component with
    | error fault => simp [hstep] at h
    | ok reached =>
      rw [hstep] at h
      rcases hproper.step habove hstep with ⟨hreached, habove⟩
      exact ih hreached habove h

theorem Proper.find (hproper : root.Proper) (h : root.find path = .ok node) : node.Proper := by
  unfold Node.find at h
  split at h
  · simp at h
  · split at h
    · simp at h
    · exact hproper.follow (fun parent hparent => absurd hparent List.not_mem_nil) h

/-! ## Entries in another order -/

/-- The trees are the same but for the order in which the entries of directories are listed. -/
inductive SameTree : Node → Node → Prop where
  | file (octets : List UInt8) : SameTree (.file octets) (.file octets)
  | directory (entries entries' : List (Text × Node)) :
      (entries.map (·.1)).Perm (entries'.map (·.1)) →
      (∀ name node node', (name, node) ∈ entries → (name, node') ∈ entries' → SameTree node node') →
      SameTree (.directory entries) (.directory entries')

/-- Both fail in the same way, or what they give is related. -/
inductive Agree {α : Type} (R : α → α → Prop) : Except PathFault α → Except PathFault α → Prop where
  | fault (fault : PathFault) : Agree R (.error fault) (.error fault)
  | found {a b : α} : R a b → Agree R (.ok a) (.ok b)

variable {node' root' : Node} {entries' : List (Text × Node)} {above' : List Node}

theorem SameTree.symm (h : SameTree node node') : SameTree node' node := by
  induction h with
  | file octets => exact SameTree.file octets
  | directory entries entries' hperm _ ih =>
    refine SameTree.directory entries' entries hperm.symm ?_
    intro name child child' hchild hchild'
    exact ih name child' child hchild' hchild

theorem SameTree.exists_mem (hperm : (entries.map (·.1)).Perm (entries'.map (·.1)))
    (h : (name, node) ∈ entries) : ∃ node', (name, node') ∈ entries' := by
  have hname := hperm.mem_iff.mp (List.mem_map_of_mem h)
  rcases List.mem_map.mp hname with ⟨⟨_, node'⟩, hmem, rfl⟩
  exact ⟨node', hmem⟩

theorem SameTree.proper (h : SameTree node node') (hproper : node.Proper) : node'.Proper := by
  induction h with
  | file octets => exact hproper
  | directory entries entries' hperm _ ih =>
    have hentry : ∀ e ∈ entries', IsName e.1 ∧ e.2.Proper := by
      rintro ⟨name, child'⟩ hchild'
      rcases exists_mem hperm.symm hchild' with ⟨child, hchild⟩
      rcases hproper.entry hchild with ⟨hname, hchildProper⟩
      exact ⟨hname, ih name child child' hchild hchild' hchildProper⟩
    exact Proper.directory entries' (fun e he => (hentry e he).1)
      (hperm.nodup_iff.mp hproper.nodup) fun e he => (hentry e he).2

/-- A directory whose entries are listed in another order. -/
theorem SameTree.of_perm (h : (Node.directory entries).Proper) (hperm : entries.Perm entries')
    (hentries : ∀ e ∈ entries, SameTree e.2 e.2) :
    SameTree (.directory entries) (.directory entries') := by
  refine SameTree.directory entries entries' (hperm.map _) ?_
  intro name child child' hchild hchild'
  have hfirst := (lookup_eq_some_iff h.nodup).mpr hchild
  have hsecond := (lookup_eq_some_iff h.nodup).mpr (hperm.mem_iff.mpr hchild')
  obtain rfl := Option.some.inj (hfirst.symm.trans hsecond)
  exact hentries _ hchild

theorem SameTree.refl (h : node.Proper) : SameTree node node := by
  induction node using tree_induction with
  | file octets => exact SameTree.file octets
  | directory entries ih => exact of_perm h (List.Perm.refl _) fun e he => ih e he (h.entry he).2

/-- An entry is found in both directories or in none. -/
theorem SameTree.lookup (h : SameTree (.directory entries) (.directory entries'))
    (hproper : (Node.directory entries).Proper) (name : Text) :
    (entries.lookup name = none ∧ entries'.lookup name = none) ∨
      ∃ child child', entries.lookup name = some child ∧ entries'.lookup name = some child' ∧
        SameTree child child' := by
  have hnodup' := (h.proper hproper).nodup
  cases h with
  | directory _ _ hperm hsame =>
    cases hlookup : entries.lookup name with
    | some child =>
      have hchild := (lookup_eq_some_iff hproper.nodup).mp hlookup
      rcases exists_mem hperm hchild with ⟨child', hchild'⟩
      exact Or.inr ⟨child, child', rfl, (lookup_eq_some_iff hnodup').mpr hchild',
        hsame name child child' hchild hchild'⟩
    | none =>
      cases hlookup' : entries'.lookup name with
      | none => exact Or.inl ⟨rfl, rfl⟩
      | some child' =>
        have hchild' := (lookup_eq_some_iff hnodup').mp hlookup'
        rcases exists_mem hperm.symm hchild' with ⟨child, hchild⟩
        rw [(lookup_eq_some_iff hproper.nodup).mpr hchild] at hlookup
        exact absurd hlookup (Option.some_ne_none child)

theorem SameTree.step (h : SameTree node node') (hproper : node.Proper)
    (habove : List.Forall₂ SameTree above above') (component : Text) :
    Agree (fun reached reached' => SameTree reached.1 reached'.1 ∧
        List.Forall₂ SameTree reached.2 reached'.2)
      (node.step above component) (node'.step above' component) := by
  cases node with
  | file octets =>
    cases h with
    | file _ => exact Agree.fault _
  | directory entries =>
    cases node' with
    | file octets => nomatch h
    | directory entries' =>
      simp only [Node.step]
      split
      · exact Agree.found ⟨h, habove⟩
      · split
        · -- a step back leads to the nearest directory above, if there is one
          cases habove with
          | nil => exact Agree.found ⟨h, List.Forall₂.nil⟩
          | cons hparent habove => exact Agree.found ⟨hparent, habove⟩
        · rcases h.lookup hproper component with ⟨hnone, hnone'⟩ | ⟨child, child', hsome, hsome', hchild⟩
          · rw [hnone, hnone']
            exact Agree.fault _
          · rw [hsome, hsome']
            exact Agree.found ⟨hchild, List.Forall₂.cons h habove⟩

theorem SameTree.follow (h : SameTree node node') (hproper : node.Proper)
    (habove : List.Forall₂ SameTree above above') (hparents : ∀ parent ∈ above, parent.Proper)
    (components : List Text) :
    Agree SameTree (node.follow above components) (node'.follow above' components) := by
  induction components generalizing node node' above above' with
  | nil => exact Agree.found h
  | cons component components ih =>
    rw [Node.follow, Node.follow]
    have hagree := h.step hproper habove component
    cases hstep : node.step above component with
    | error fault =>
      rw [hstep] at hagree
      generalize node'.step above' component = outcome at hagree
      cases hagree with
      | fault _ => exact Agree.fault fault
    | ok reached =>
      rcases hproper.step hparents hstep with ⟨hreached, hparents⟩
      rw [hstep] at hagree
      generalize node'.step above' component = outcome at hagree
      cases hagree with
      | found hsame => exact ih hsame.1 hreached hsame.2 hparents

/-- The same is found in trees that are the same but for the order of entries. -/
theorem SameTree.find (h : SameTree root root') (hproper : root.Proper) (path : Text) :
    Agree SameTree (root.find path) (root'.find path) := by
  unfold Node.find
  split
  · exact Agree.fault _
  · split
    · exact Agree.fault _
    · exact h.follow hproper List.Forall₂.nil
        (fun parent hparent => absurd hparent List.not_mem_nil) _

end Node

end MlogHighlight
