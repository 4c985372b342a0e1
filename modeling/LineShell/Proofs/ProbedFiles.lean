import LineShell.Proofs.Persistence
import LineShell.Proofs.Search

/-
  A search depends on the files that it probes, and on nothing
  else.

  Which files may change depends on the search itself: two
  searches go the same way as long as each file that the first
  one probes looks the same to the second.  Lines that are
  executed in between change no environment, and no tree but
  through its children.

  Main declarations:
    * `Search.first_congr`
    * `Search.first_probes_prefix`
    * `LexicalTree.AgreeAt`
    * `LexicalTree.lookup_congr`
    * `Search.find_of_agree`
    * `LexicalTree.Edit`
    * `Shell.Errand`
    * `Effect.keeping_line`
    * `Shell.afterErrands_agreeAt`
    * `Search.find_edited`
    * `Search.find_elsewhere`
    * `Search.findExecutable_afterErrands`
    * `Search.find_depends_on_probed`
-/

------------------------------------------------------------
-- Searches of Other Files
------------------------------------------------------------

namespace LineShell

namespace Search

variable {φ ψ : Type}
variable {F : FileSystem φ}
variable {G : FileSystem ψ}
variable {files : φ}
variable {others : ψ}
variable {name : Text}

/- Whatever becomes of it, the first candidate is probed. -/
theorem mem_probes_first
    (F : FileSystem φ)
    (files : φ)
    (name : Text)
    (path : Path)
    (rest : List Path) :
    path ∈ (first F files name (path :: rest)).trace.probes := by
  have hProbed : path ∈ (examine F files path).trace.probes := by
    rw [examine_probes]
    exact List.mem_cons_self
  cases hExamined : (examine F files path).result with
  | error fault =>
      rw [first_of_fault hExamined]
      exact hProbed
  | ok accepted =>
      cases accepted with
      | true =>
          rw [first_of_accepted hExamined, Trace.probes_append]
          exact List.mem_append_left _ hProbed
      | false =>
          rw [first_of_rejected hExamined, Trace.probes_append]
          exact List.mem_append_left _ hProbed

/- So it is examined alike if all probed files look the same. -/
theorem examine_congr
    {path : Path}
    {rest : List Path}
    (hModes :
      ∀ probed ∈ (first F files name (path :: rest)).trace.probes,
        G.mode others probed = F.mode files probed) :
    examine G others path = examine F files path := by
  unfold examine
  rw [hModes path (mem_probes_first F files name path rest)]

/-
  A search is the same over other files if they look the same
  wherever it probes: the next path is probed, so both take
  the same way there.
-/
theorem first_congr
    {paths : List Path}
    (hModes :
      ∀ path ∈ (first F files name paths).trace.probes,
        G.mode others path = F.mode files path) :
    first G others name paths = first F files name paths := by
  induction paths using first_induction F files with
  | nil => rfl
  | fault path rest fault hFault =>
      have hSame := examine_congr hModes
      rw [first_of_fault hFault,
        first_of_fault (hSame ▸ hFault), hSame]
  | accepted path rest hAccepted =>
      have hSame := examine_congr hModes
      rw [first_of_accepted hAccepted,
        first_of_accepted (hSame ▸ hAccepted), hSame]
  | rejected path rest hRejected ih =>
      have hSame := examine_congr hModes
      rw [first_of_rejected hRejected,
        Trace.probes_append] at hModes
      have hRest := ih fun probed hProbed =>
        hModes probed (List.mem_append_right _ hProbed)
      rw [first_of_rejected hRejected,
        first_of_rejected (hSame ▸ hRejected), hSame, hRest]

/- The probed files are candidates, from the first one on. -/
theorem first_probes_prefix
    (F : FileSystem φ)
    (files : φ)
    (name : Text)
    (paths : List Path) :
    (first F files name paths).trace.probes <+: paths := by
  have hFirst (path : Path) (rest : List Path) :
      [path] <+: path :: rest :=
    List.prefix_append [path] rest
  induction paths using first_induction F files with
  | nil => exact List.nil_prefix
  | fault path rest fault hFault =>
      rw [first_of_fault hFault, examine_probes]
      exact hFirst path rest
  | accepted path rest hAccepted =>
      rw [first_of_accepted hAccepted, Trace.probes_append,
        examine_probes]
      exact hFirst path rest
  | rejected path rest hRejected ih =>
      rw [first_of_rejected hRejected, Trace.probes_append,
        examine_probes]
      exact List.cons_prefix_cons.2 ⟨rfl, ih⟩

end Search

end LineShell

------------------------------------------------------------
-- Trees That Agree
------------------------------------------------------------

namespace LineShell

namespace LexicalTree

variable {tree other : LexicalTree}
variable {path : Path}

/- Two trees hold the same node and the same failure at a key. -/
structure AgreeAt
    (tree other : LexicalTree)
    (key : Path) : Prop where
  node : other.nodes.find? key = tree.nodes.find? key
  fault : other.faults.find? key = tree.faults.find? key

theorem AgreeAt.refl
    (tree : LexicalTree)
    (key : Path) :
    AgreeAt tree tree key :=
  ⟨rfl, rfl⟩

theorem AgreeAt.trans
    {last : LexicalTree}
    {key : Path}
    (hFirst : AgreeAt tree other key)
    (hSecond : AgreeAt other last key) :
    AgreeAt tree last key :=
  ⟨hSecond.node.trans hFirst.node,
    hSecond.fault.trans hFirst.fault⟩

/- A path looks the same if its key and what is there is. -/
theorem lookup_congr
    (hKey :
      normalize other.directory path =
        normalize tree.directory path)
    (hAgree : AgreeAt tree other (normalize tree.directory path)) :
    other.lookup path = tree.lookup path := by
  unfold lookup
  simp only [hKey, hAgree.node, hAgree.fault]

/- The key of an absolute path is the same in every directory. -/
theorem normalize_of_slash
    (hSlash : Text.beginsWith '/' path = true)
    (directory elsewhere : Path) :
    normalize elsewhere path = normalize directory path := by
  unfold normalize absolute
  rw [if_pos hSlash, if_pos hSlash]

end LexicalTree

namespace Search

variable {tree other : LexicalTree}
variable {environment setting : Environment}
variable {name : Text}

/- The candidates depend on the search path alone. -/
theorem candidates_congr
    (hPath : setting.searchPath = environment.searchPath)
    (name : Text) :
    candidates setting name = candidates environment name := by
  unfold candidates directories
  rw [hPath]

/-
  A search is the same in a tree that agrees at the keys of the
  probed files, as long as these keep their keys.
-/
theorem find_of_agree
    (hPath : setting.searchPath = environment.searchPath)
    (hProbed :
      ∀ path ∈ (find LexicalTree.fileSystem environment tree
          name).trace.probes,
        LexicalTree.normalize other.directory path =
            LexicalTree.normalize tree.directory path ∧
          tree.AgreeAt other
            (LexicalTree.normalize tree.directory path)) :
    find LexicalTree.fileSystem setting other name =
      find LexicalTree.fileSystem environment tree name := by
  unfold find at hProbed ⊢
  rw [candidates_congr hPath]
  apply first_congr
  intro path hMem
  exact LexicalTree.lookup_congr (hProbed path hMem).1
    (hProbed path hMem).2

/- Under absolute directories, all candidates are absolute. -/
theorem beginsWith_candidate
    {path : Path}
    (hDirs :
      ∀ dir ∈ directories environment,
        Text.beginsWith '/' dir = true)
    (hPath : path ∈ candidates environment name) :
    Text.beginsWith '/' path = true := by
  rw [candidates_eq_map] at hPath
  rcases List.mem_map.1 hPath with ⟨dir, hDir, rfl⟩
  have hBegins := hDirs dir hDir
  cases dir with
  | nil => exact absurd rfl (directory_ne_nil hDir)
  | cons c dir => exact hBegins

end Search

end LineShell

------------------------------------------------------------
-- Changes from Outside
------------------------------------------------------------

namespace LineShell

/- Give a key a value, or drop the key. -/
def Table.assign
    {α : Type}
    (key : Text) : Option α → Table α → Table α
  | none => erase key
  | some a => put key a

theorem Table.find?_assign
    {α : Type}
    (key other : Text)
    (setting : Option α)
    (table : Table α) :
    find? other (assign key setting table) =
      if key = other then setting else find? other table := by
  cases setting with
  | none => exact find?_erase key other table
  | some a => exact find?_put key other a table

namespace LexicalTree

/-
  A change of a tree from outside: a node or a failure is set,
  replaced or removed.
-/
inductive Edit where
  | node (key : Path) (mode? : Option FileMode)
  | fault (key : Path) (fault? : Option Fault)

/- Where a change takes place. -/
def Edit.key :
    Edit → Path
  | node key _ => key
  | fault key _ => key

/- The tree after a change. -/
def edit
    (tree : LexicalTree) : Edit → LexicalTree
  | .node key mode? =>
      { tree with nodes := tree.nodes.assign key mode? }
  | .fault key fault? =>
      { tree with faults := tree.faults.assign key fault? }

/- The tree after changes in order. -/
def editAll
    (tree : LexicalTree)
    (edits : List Edit) : LexicalTree :=
  edits.foldl edit tree

/- A change leaves other keys as they are. -/
theorem agreeAt_edit
    (tree : LexicalTree)
    {change : Edit}
    {key : Path}
    (hKey : change.key ≠ key) :
    tree.AgreeAt (tree.edit change) key := by
  cases change with
  | node changed mode? =>
      exact ⟨(Table.find?_assign changed key mode? _).trans
        (if_neg hKey), rfl⟩
  | fault changed fault? =>
      exact ⟨rfl, (Table.find?_assign changed key fault? _).trans
        (if_neg hKey)⟩

theorem agreeAt_editAll
    (tree : LexicalTree)
    {edits : List Edit}
    {key : Path}
    (hKeys : ∀ change ∈ edits, change.key ≠ key) :
    tree.AgreeAt (tree.editAll edits) key := by
  induction edits generalizing tree with
  | nil => exact .refl tree key
  | cons change edits ih =>
      have hKeys := List.forall_mem_cons.1 hKeys
      exact (tree.agreeAt_edit hKeys.1).trans (ih _ hKeys.2)

/- Changes from outside leave the working directory. -/
theorem editAll_directory
    (tree : LexicalTree)
    (edits : List Edit) :
    (tree.editAll edits).directory = tree.directory := by
  induction edits generalizing tree with
  | nil => rfl
  | cons change edits ih =>
      have hEdit : (tree.edit change).directory = tree.directory := by
        cases change with
        | node key mode? => rfl
        | fault key fault? => rfl
      exact (ih _).trans hEdit

end LexicalTree

/- The environment after assignments in order. -/
def Environment.assignAll
    (environment : Environment)
    (settings : List (Text × Option Text)) : Environment :=
  settings.foldl (fun environment setting =>
    environment.assign setting.1 setting.2) environment

/- Assignments to other variables leave the search path. -/
theorem Environment.searchPath_assignAll
    (environment : Environment)
    {settings : List (Text × Option Text)}
    (hNames : ∀ setting ∈ settings, setting.1 ≠ "PATH".toList) :
    (environment.assignAll settings).searchPath =
      environment.searchPath := by
  induction settings generalizing environment with
  | nil => rfl
  | cons setting settings ih =>
      have hNames := List.forall_mem_cons.1 hNames
      have hFirst :
          (environment.assign setting.1 setting.2).searchPath =
            environment.searchPath :=
        (environment.get?_assign _ _ _).trans (if_neg hNames.1)
      exact (ih _ hNames.2).trans hFirst

end LineShell

------------------------------------------------------------
-- What Happens between Searches
------------------------------------------------------------

namespace LineShell

variable {φ δ : Type}

namespace Shell

/- What a shell may do between two searches. -/
inductive Errand where
  | lookup (name : Text)
  | command (line : Text)

/- The world after it, whether it returns or fails. -/
def Errand.after
    (M : Machine φ δ)
    (w : World φ δ) : Errand → World φ δ
  | lookup name => (Builtin.findExecutable M name w).state
  | command line => (execute M line w).state

/- The world after several, in order. -/
def afterErrands
    (M : Machine φ δ)
    (errands : List Errand)
    (w : World φ δ) : World φ δ :=
  errands.foldl (fun w errand => errand.after M w) w

/- What every line respects, errands in order respect. -/
theorem afterErrands_respects
    {R : Effect (World φ δ)}
    {M : Machine φ δ}
    (hR : R.Line M)
    (errands : List Errand)
    (w : World φ δ) :
    ∃ trace, R w trace (afterErrands M errands w) := by
  induction errands generalizing w with
  | nil => exact ⟨[], hR.still w⟩
  | cons errand rest ih =>
      rcases ih (errand.after M w) with ⟨later, hRest⟩
      cases errand with
      | lookup name =>
          have hLookup := Builtin.findExecutable_respects
            hR.toQuiet M name w
          exact ⟨_, hR.join hLookup hRest⟩
      | command line =>
          exact ⟨_, hR.join (execute_respects hR line w) hRest⟩

end Shell

namespace Effect

/- A view of the files stays as it is. -/
def keeping
    {ν : Type}
    (view : φ → ν) : Effect (World φ δ) :=
  fun before _ after => view after.files = view before.files

/- It does if neither a child nor entering a directory shows. -/
theorem keeping_line
    {ν : Type}
    (view : φ → ν)
    {M : Machine φ δ}
    (hEnter :
      ∀ files path entered,
        M.files.enter files path = .ok entered →
          view entered = view files)
    (hLaunch :
      ∀ environment files device request,
        view (M.launch environment files device request).files =
          view files) :
    (keeping view : Effect (World φ δ)).Line M where
  still := fun _ => rfl
  join := fun hFirst hSecond => hSecond.trans hFirst
  wrote := fun _ _ _ => rfl
  flushed := fun _ _ => rfl
  failed := fun _ _ _ => rfl
  logged := fun _ _ => rfl
  probed := fun _ _ => rfl
  enter := by
    intro path w
    unfold keeping World.enterDirectory
    cases hFiles : M.files.enter w.files path with
    | ok files => exact hEnter w.files path files hFiles
    | error fault => rfl
  launch := fun _ _ => hLaunch _ _ _ _
  remember := fun _ _ => rfl

end Effect

namespace Shell

variable {M : Machine LexicalTree δ}

/- No errand touches a tree that children do not touch. -/
theorem afterErrands_agreeAt
    (hFiles : M.files = LexicalTree.fileSystem)
    (hLaunch :
      ∀ environment tree device request,
        (M.launch environment tree device request).files = tree)
    (errands : List Errand)
    (w : World LexicalTree δ)
    (key : Path) :
    w.files.AgreeAt (afterErrands M errands w).files key := by
  let contents (tree : LexicalTree) := (tree.nodes, tree.faults)
  have hEnter (tree : LexicalTree) (path : Path)
      (entered : LexicalTree)
      (hEntered : M.files.enter tree path = .ok entered) :
      contents entered = contents tree := by
    rw [hFiles] at hEntered
    rw [LexicalTree.enter_moves hEntered]
  have hStart (environment : Environment) (tree : LexicalTree)
      (device : δ) (request : Request) :
      contents (M.launch environment tree device request).files =
        contents tree :=
    congrArg contents (hLaunch environment tree device request)
  have hKept := Effect.keeping_line contents hEnter hStart
  rcases afterErrands_respects hKept errands w with ⟨_, hSame⟩
  have hNodes := congrArg Prod.fst hSame
  have hFaults := congrArg Prod.snd hSame
  exact ⟨congrArg (Table.find? key) hNodes,
    congrArg (Table.find? key) hFaults⟩

end Shell

end LineShell

------------------------------------------------------------
-- Dependence on the Probed Files
------------------------------------------------------------

namespace LineShell

namespace Search

variable {δ : Type}
variable {environment : Environment}
variable {tree : LexicalTree}
variable {name : Text}

/-
  Changes away from the keys of the probed files do not count,
  and neither do other variables than the search path.
-/
theorem find_edited
    {edits : List LexicalTree.Edit}
    {settings : List (Text × Option Text)}
    (hEdits :
      ∀ edit ∈ edits,
        edit.key ∉
          (find LexicalTree.fileSystem environment tree
            name).trace.probes.map
              (LexicalTree.normalize tree.directory))
    (hSettings :
      ∀ setting ∈ settings, setting.1 ≠ "PATH".toList) :
    find LexicalTree.fileSystem (environment.assignAll settings)
        (tree.editAll edits) name =
      find LexicalTree.fileSystem environment tree name := by
  apply find_of_agree (environment.searchPath_assignAll hSettings)
  intro path hProbed
  rw [tree.editAll_directory edits]
  refine ⟨rfl, tree.agreeAt_editAll ?_⟩
  intro edit hEdit hKey
  apply hEdits edit hEdit
  rw [hKey]
  exact List.mem_map_of_mem hProbed

/- Absolute directories are searched alike from everywhere. -/
theorem find_elsewhere
    (hDirs :
      ∀ dir ∈ directories environment,
        Text.beginsWith '/' dir = true)
    (directory : Path) :
    find LexicalTree.fileSystem environment
        { tree with directory := directory } name =
      find LexicalTree.fileSystem environment tree name := by
  apply find_of_agree rfl
  intro path hProbed
  have hPrefix := first_probes_prefix LexicalTree.fileSystem tree
    name (candidates environment name)
  have hSlash :=
    beginsWith_candidate hDirs (hPrefix.subset hProbed)
  exact ⟨LexicalTree.normalize_of_slash hSlash _ _, rfl, rfl⟩

/-
  A search is the same again after errands in a tree that holds
  the same, from the same directory.
-/
theorem findExecutable_afterErrands
    {M : Machine LexicalTree δ}
    {w : World LexicalTree δ}
    {errands : List Shell.Errand}
    (hFiles : M.files = LexicalTree.fileSystem)
    (hAgree :
      ∀ key,
        w.files.AgreeAt (Shell.afterErrands M errands w).files key)
    (hDirectory :
      (Shell.afterErrands M errands w).files.directory =
        w.files.directory)
    (name : Text) :
    let found :=
      find LexicalTree.fileSystem w.environment w.files name
    Builtin.findExecutable M name (Shell.afterErrands M errands w) =
      ⟨found.result, Shell.afterErrands M errands w,
        found.trace⟩ := by
  intro found
  rcases Shell.afterErrands_respects (Effect.steady_line M)
      errands w with
    ⟨_, hSetting, -⟩
  have hSame :
      find LexicalTree.fileSystem
          (Shell.afterErrands M errands w).environment
          (Shell.afterErrands M errands w).files name =
        found := by
    apply find_of_agree
    · rw [hSetting.environment]
    · intro path _
      exact ⟨by rw [hDirectory], hAgree _⟩
  unfold Builtin.findExecutable
  rw [Action.inquire_apply, hFiles, hSame]

/-
  A search of a tree is the same, record by record, after any
  changes of nodes and failures away from the keys of the files
  that it probes, and of other variables than the search path.
  What comes after the found candidate is not probed, so it
  does not count.  Under absolute directories the working
  directory does not count either.  Nor does what was done
  before: whatever was searched and executed in between, in a
  tree that holds the same and from the same directory, the
  search is the same again; and where children leave the tree
  alone, it does hold the same.
-/
theorem find_depends_on_probed
    (launch :
      Environment → LexicalTree → δ → Request →
        Launch LexicalTree δ)
    (w : World LexicalTree δ)
    (name : Text) :
    let M : Machine LexicalTree δ :=
      ⟨LexicalTree.fileSystem, launch⟩
    let search (environment : Environment) (tree : LexicalTree) :=
      find LexicalTree.fileSystem environment tree name
    let found := search w.environment w.files
    let key := LexicalTree.normalize w.files.directory
    (∀ edits settings,
        (∀ edit ∈ edits,
          edit.key ∉ found.trace.probes.map key) →
        (∀ setting ∈ settings, setting.1 ≠ "PATH".toList) →
        search (w.environment.assignAll settings)
          (w.files.editAll edits) = found) ∧
      (∀ path, found.result = .ok (some path) →
        ∃ before after,
          candidates w.environment name =
              before ++ path :: after ∧
            found.trace.probes = before ++ [path] ∧
            ∀ edits,
              (∀ edit ∈ edits,
                edit.key ∈ after.map key ∧
                  edit.key ∉ (before ++ [path]).map key) →
              search w.environment (w.files.editAll edits) =
                found) ∧
      ((∀ dir ∈ directories w.environment,
          Text.beginsWith '/' dir = true) →
        ∀ directory,
          search w.environment
            { w.files with directory := directory } = found) ∧
      ∀ errands,
        let later := Shell.afterErrands M errands w
        ((∀ key, w.files.AgreeAt later.files key) →
            later.files.directory = w.files.directory →
            Builtin.findExecutable M name later =
              ⟨found.result, later, found.trace⟩) ∧
          ((∀ environment tree device request,
              (launch environment tree device request).files =
                tree) →
            ∀ key, w.files.AgreeAt later.files key) := by
  intro M search found key
  refine ⟨fun _ _ hEdits hSettings => find_edited hEdits hSettings,
    ?_, fun hDirs directory => find_elsewhere hDirs directory, ?_⟩
  · intro path hFound
    rcases (first_firstOf hFound).splits with
      ⟨before, after, hPaths, hProbes⟩
    refine ⟨before, after, hPaths, hProbes, ?_⟩
    intro edits hEdits
    have hAway (edit : LexicalTree.Edit) (hEdit : edit ∈ edits) :
        edit.key ∉ found.trace.probes.map key := by
      have hProbed : found.trace.probes = before ++ [path] := hProbes
      rw [hProbed]
      exact (hEdits edit hEdit).2
    exact find_edited hAway
      (fun _ hMem => absurd hMem List.not_mem_nil)
  · intro errands later
    constructor
    · intro hAgree hDirectory
      exact findExecutable_afterErrands rfl hAgree hDirectory name
    · intro hLaunch
      exact Shell.afterErrands_agreeAt rfl hLaunch errands w

/-
  The second entry is taken.  It does not matter what becomes
  of the third, of another variable and of the directory, and
  a way to another directory leads back.
-/
theorem find_depends_on_probed_second_entry :
    let w : World LexicalTree (Except Fault Int) :=
      { environment := [("PATH", "/bin:/usr/bin:/opt")]
        files := LexicalTree.build "/" ["/usr"]
          [("/usr/bin/show", 0o100755), ("/opt/show", 0o100755)]
        device := .ok 0 }
    let F := LexicalTree.fileSystem
    let found := find F w.environment w.files "show"
    let edits : List LexicalTree.Edit :=
      [.fault "/opt/show" (some Errno.noEntry.fault),
        .node "/opt/show" none]
    let settings : List (Text × Option Text) :=
      [("HOME", some "/usr")]
    let errands : List Shell.Errand :=
      [.command "cd /usr", .lookup "cd", .command "show 1",
        .command "cd /"]
    let later :=
      Shell.afterErrands LexicalTree.machine errands w
    found.result = .ok (some "/usr/bin/show".toList) ∧
      find F (w.environment.assignAll settings)
          (w.files.editAll edits) "show" = found ∧
      find F w.environment (w.files.editAll edits) "show" =
        found ∧
      find F w.environment
          { w.files with directory := "/usr" } "show" = found ∧
      Builtin.findExecutable LexicalTree.machine "show" later =
        ⟨found.result, later, found.trace⟩ := by
  intro w F found edits settings errands later
  have hFound : found.result = .ok (some "/usr/bin/show".toList) :=
    rfl
  rcases find_depends_on_probed LexicalTree.machine.launch w
      "show" with
    ⟨hChanged, hAfter, hElsewhere, hLater⟩
  rcases hAfter _ hFound with
    ⟨before, after, hPaths, hProbes, hUnprobed⟩
  have hBefore : before = ["/bin/show".toList] := by
    have hCut :
        ["/bin/show".toList] ++ ["/usr/bin/show".toList] =
          before ++ ["/usr/bin/show".toList] :=
      hProbes
    exact (List.append_cancel_right hCut).symm
  subst hBefore
  have hRest : after = ["/opt/show".toList] := by
    have hCut :
        ["/bin/show".toList, "/usr/bin/show".toList] ++
            ["/opt/show".toList] =
          ["/bin/show".toList, "/usr/bin/show".toList] ++
            after :=
      hPaths
    exact (List.append_cancel_left hCut).symm
  subst hRest
  rcases hLater errands with ⟨hAgain, hAgree⟩
  refine ⟨hFound, hChanged edits settings ?_ ?_,
    hUnprobed edits ?_, hElsewhere ?_ "/usr",
    hAgain (hAgree fun _ _ _ _ => rfl) ?_⟩
  · decide
  · decide
  · decide
  · decide
  · decide

end Search

end LineShell
