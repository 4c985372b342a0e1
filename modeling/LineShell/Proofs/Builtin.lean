import LineShell.Builtin.Run
import LineShell.Proofs.World

/-
  What the builtins can do, and how they are found.

  Every builtin speaks.  Only the description of a name looks
  files up, and only the change of directory travels.

  Main declarations:
    * `Registry.holds_eq_isSome`
    * `Search.first_trace_respects`
    * `Builtin.findExecutable_respects`
    * `Builtin.run_respects`
    * `Builtin.echoWords_apply`
-/

------------------------------------------------------------
-- Registries
------------------------------------------------------------

namespace LineShell

/- A value that is found is in the table. -/
theorem Table.mem_of_find?
    {α : Type}
    {key : Text}
    {a : α}
    {table : Table α}
    (hFind : table.find? key = some a) :
    (key, a) ∈ table := by
  induction table with
  | nil => exact absurd hFind.symm (Option.some_ne_none a)
  | cons entry rest ih =>
      by_cases hKey : entry.1 = key
      · have hEntry : entry = (key, a) := by
          simp only [find?, hKey, if_true, Option.some.injEq]
            at hFind
          exact Prod.ext hKey hFind
        rw [hEntry]
        exact List.mem_cons_self
      · simp only [find?, hKey, if_false] at hFind
        exact List.mem_cons_of_mem entry (ih hFind)

namespace Registry

variable {name : Text}

/- A registry holds exactly the names that it finds. -/
theorem holds_eq_isSome
    (registry : Registry)
    (name : Text) :
    registry.holds name = (registry.builtin? name).isSome := by
  unfold holds names builtin?
  induction registry with
  | nil => rfl
  | cons entry rest ih =>
      by_cases hName : entry.1 = name
      · simp [Table.find?, hName]
      · have hOther : (name == entry.1) = false :=
          beq_eq_false_iff_ne.2 (Ne.symm hName)
        simpa [Table.find?, hName, hOther] using ih

/- Only `type` describes names. -/
theorem standard_describe
    (hFind : standard.builtin? name = some .describe) :
    name = "type".toList := by
  have hMember := Table.mem_of_find? hFind
  simpa [standard] using hMember

/- Only `cd` changes the directory. -/
theorem standard_changeDirectory
    (hFind : standard.builtin? name = some .changeDirectory) :
    name = "cd".toList := by
  have hMember := Table.mem_of_find? hFind
  simpa [standard] using hMember

end Registry

end LineShell

------------------------------------------------------------
-- Searching
------------------------------------------------------------

namespace LineShell

namespace Search

variable {φ δ : Type}
variable {R : Effect (World φ δ)}

theorem examine_trace_respects
    (hR : R.Quiet)
    (F : FileSystem φ)
    (files : φ)
    (path : Path)
    (w : World φ δ) :
    R w (examine F files path).trace w := by
  have hProbed := hR.probed w path
  unfold examine
  cases F.mode files path with
  | error fault =>
      by_cases hHost : fault.isHost
      · simp only [hHost, if_true]
        exact hR.join hProbed (hR.logged w _)
      · simp only [hHost]
        exact hProbed
  | ok mode =>
      by_cases hRegular : FileMode.isRegular mode
      · simp only [hRegular, if_true]
        exact hProbed
      · simp only [hRegular]
        exact hR.join hProbed (hR.logged w _)

/- A search only probes and logs. -/
theorem first_trace_respects
    (hR : R.Quiet)
    (F : FileSystem φ)
    (files : φ)
    (name : Text)
    (paths : List Path)
    (w : World φ δ) :
    R w (first F files name paths).trace w := by
  induction paths with
  | nil => exact hR.logged w _
  | cons path rest ih =>
      have hExamined :=
        examine_trace_respects hR F files path w
      cases hResult : (examine F files path).result with
      | error fault =>
          simp only [first, hResult]
          exact hExamined
      | ok accepted =>
          cases accepted with
          | true =>
              simp only [first, hResult]
              exact hR.join hExamined (hR.logged w _)
          | false =>
              simp only [first, hResult]
              exact hR.join hExamined ih

end Search

namespace Builtin

variable {φ δ : Type}
variable {R : Effect (World φ δ)}

theorem findExecutable_respects
    (hR : R.Quiet)
    (M : Machine φ δ)
    (name : Text) :
    (findExecutable M name).Respects R :=
  fun w => Search.first_trace_respects hR M.files w.files
    name (Search.candidates w.environment name) w

end Builtin

end LineShell

------------------------------------------------------------
-- Builtins That Only Speak
------------------------------------------------------------

namespace LineShell

namespace Builtin

variable {φ δ : Type}
variable {R : Effect (World φ δ)}

theorem echoWords_respects
    (hR : R.Speech)
    (words : List Text) :
    (echoWords words : Action (World φ δ) Int).Respects R := by
  induction words with
  | nil => exact World.say_respects hR _ _ _
  | cons word words ih =>
      apply Action.Respects.bind hR.toComposes
        (World.write_respects hR _ _)
      intro _
      exact ih

theorem exitWith_respects
    (hR : R.Speech)
    (name : Text)
    (args : List Text) :
    (exitWith name args : Action (World φ δ) Int).Respects R := by
  cases args with
  | nil => exact Action.Respects.raise hR.toComposes _
  | cons argument args =>
      simp only [exitWith]
      split
      · exact Action.Respects.raise hR.toComposes _
      · exact World.say_respects hR _ _ _
      · exact Action.Respects.raise hR.toComposes _

theorem printWorkingDirectory_respects
    (hR : R.Speech)
    (M : Machine φ δ) :
    (printWorkingDirectory M).Respects R := by
  apply Action.Respects.bind hR.toComposes
    (Action.Respects.attempt
      (World.workingDirectory_respects hR.toComposes M))
  intro result
  cases result with
  | ok path => exact World.say_respects hR _ _ _
  | error fault =>
      by_cases hSystem : fault.isSystem
      · simp only [hSystem, if_true]
        exact Action.Respects.raise hR.toComposes _
      · simp only [hSystem]
        exact Action.Respects.raise hR.toComposes _

end Builtin

namespace Script

variable {φ δ : Type}
variable {R : Effect (World φ δ)}

theorem say_respects
    (hR : R.Speech)
    (writes : List (Channel × Text)) :
    (say writes : Action (World φ δ) Unit).Respects R := by
  induction writes with
  | nil => exact Action.Respects.pure hR.toComposes _
  | cons piece writes ih =>
      apply Action.Respects.bind hR.toComposes
        (World.write_respects hR piece.1 piece.2)
      intro _
      exact ih

theorem run_respects
    (hR : R.Speech)
    (script : Script) :
    (run script : Action (World φ δ) Int).Respects R := by
  apply Action.Respects.bind hR.toComposes
    (say_respects hR script.writes)
  intro _
  exact Action.Respects.ofExcept hR.toComposes _

end Script

end LineShell

------------------------------------------------------------
-- Builtins That Travel or Look Up
------------------------------------------------------------

namespace LineShell

namespace Builtin

variable {φ δ : Type}
variable {R : Effect (World φ δ)}
variable {M : Machine φ δ}

theorem enter_respects
    (hR : R.Travel M)
    (name : Text)
    (path : Path) :
    (enter M name path).Respects R := by
  apply Action.Respects.bind hR.toComposes
    (Action.Respects.attempt (hR.enter path))
  intro result
  cases result with
  | ok _ => exact Action.Respects.pure hR.toComposes _
  | error fault =>
      by_cases hHost : fault.isHost
      · simp only [hHost, if_true]
        apply Action.Respects.bind hR.toComposes
          (World.log_respects hR.toSpeech _ _)
        intro _
        exact World.say_respects hR.toSpeech _ _ _
      · simp only [hHost]
        exact Action.Respects.raise hR.toComposes _

theorem changeDirectoryTo_respects
    (hR : R.Travel M)
    (name : Text)
    (args : List Text) :
    (changeDirectoryTo M name args).Respects R := by
  apply Action.Respects.bind hR.toComposes
    (Action.Respects.get hR.toComposes)
  intro w
  cases hTarget : target? w.environment args with
  | none => exact World.say_respects hR.toSpeech _ _ _
  | some path => exact enter_respects hR name path

theorem requireArgs_respects
    (hR : R.Speech)
    (name : Text)
    (args : List Text)
    (least : Int)
    (usage : Text) :
    (Report.requireArgs name args least usage :
      Action (World φ δ) Bool).Respects R := by
  unfold Report.requireArgs
  by_cases hEnough : least ≤ args.length
  · simp only [hEnough, if_true]
    exact Action.Respects.pure hR.toComposes _
  · simp only [hEnough]
    apply Action.Respects.bind hR.toComposes
      (World.write_respects hR _ _)
    intro _
    by_cases hUsage : !usage.isEmpty
    · simp only [hUsage, if_true]
      apply Action.Respects.bind hR.toComposes
        (World.write_respects hR _ _)
      intro _
      exact Action.Respects.pure hR.toComposes _
    · simp only [hUsage]
      exact Action.Respects.pure hR.toComposes _

theorem describeName_respects
    (hR : R.Lookup)
    (name : Text) :
    (describeName M name).Respects R := by
  apply Action.Respects.bind hR.toComposes
    (Action.Respects.get hR.toComposes)
  intro w
  by_cases hHolds : w.builtins.holds name
  · simp only [hHolds, if_true]
    exact World.say_respects hR.toSpeech _ _ _
  · simp only [hHolds]
    apply Action.Respects.bind hR.toComposes
      (findExecutable_respects hR.toQuiet M name)
    intro path?
    cases path? with
    | none => exact World.say_respects hR.toSpeech _ _ _
    | some path => exact World.say_respects hR.toSpeech _ _ _

theorem describeFirst_respects
    (hR : R.Lookup)
    (name : Text)
    (args : List Text) :
    (describeFirst M name args).Respects R := by
  apply Action.Respects.bind hR.toComposes
    (requireArgs_respects hR.toSpeech _ _ _ _)
  intro enough
  cases enough with
  | true => exact describeName_respects hR _
  | false => exact Action.Respects.pure hR.toComposes _

/-
  A builtin respects every effect of speech, if the effect
  also covers the search of the description of a name and the
  move of the change of directory.
-/
theorem run_respects
    (hSpeech : R.Speech)
    (builtin : Builtin)
    (hLookup : builtin = describe → R.Lookup)
    (hTravel : builtin = changeDirectory → R.Travel M)
    (name : Text)
    (args : List Text) :
    (run M builtin name args).Respects R := by
  cases builtin with
  | changeDirectory =>
      exact changeDirectoryTo_respects (hTravel rfl) name args
  | echo => exact echoWords_respects hSpeech args
  | exit => exact exitWith_respects hSpeech name args
  | greet => exact World.say_respects hSpeech _ _ _
  | printDirectory =>
      exact printWorkingDirectory_respects hSpeech M
  | describe =>
      exact describeFirst_respects (hLookup rfl) name args
  | added script =>
      exact Script.run_respects hSpeech (script name args)

end Builtin

end LineShell

------------------------------------------------------------
-- Outcomes of Echoing
------------------------------------------------------------

namespace LineShell

namespace Builtin

variable {φ δ : Type}
variable {w : World φ δ}

/- What is written to echo words. -/
def echoed
    (words : List Text) : Trace :=
  (words.map fun word => .wrote .out (word ++ " ")) ++
    [.wrote .out "\n"]

theorem echoWords_apply
    (hOut : w.streams.Takes .out .write)
    (words : List Text) :
    echoWords words w = ⟨.ok 0, w, echoed words⟩ := by
  induction words with
  | nil => exact World.say_accepted hOut "\n" 0
  | cons word words ih =>
      simp only [echoWords, Action.bind_apply,
        World.write_accepted hOut, Outcome.andThen_ok, ih]
      rfl

end Builtin

end LineShell

------------------------------------------------------------
-- Outcomes of Changing the Directory
------------------------------------------------------------

namespace LineShell

namespace Builtin

variable {φ δ : Type}
variable {M : Machine φ δ}
variable {w : World φ δ}
variable {path : Path}
variable {fault : Fault}

/- The record of a directory that the host refuses. -/
def refused
    (path : Path)
    (fault : Fault) : Event :=
  .logged ⟨.debug, .directory,
    "chdir " ++ path ++ " failed: " ++ fault.message⟩

theorem enter_of_ok
    {files : φ}
    (name : Text)
    (hEnter : M.files.enter w.files path = .ok files) :
    enter M name path w =
      ⟨.ok 0, { w with files := files }, [.moved path]⟩ := by
  simp [enter, World.enterDirectory, hEnter]

/- A refusal by the host is reported. -/
theorem enter_of_refusal
    (name : Text)
    (hEnter : M.files.enter w.files path = .error fault)
    (hHost : fault.isHost = true) :
    enter M name path w =
      ⟨(Report.directory name path w).result,
        (Report.directory name path w).state,
        [.moved path, refused path fault] ++
          (Report.directory name path w).trace⟩ := by
  simp [enter, World.enterDirectory, hEnter, hHost, refused]

theorem enter_of_fault
    (name : Text)
    (hEnter : M.files.enter w.files path = .error fault)
    (hHost : fault.isHost = false) :
    enter M name path w =
      ⟨.error fault, w, [.moved path]⟩ := by
  simp [enter, World.enterDirectory, hEnter, hHost]

theorem changeDirectoryTo_of_target
    (name : Text)
    (args : List Text)
    (hTarget : target? w.environment args = some path) :
    changeDirectoryTo M name args w = enter M name path w := by
  simp [changeDirectoryTo, hTarget]

theorem changeDirectoryTo_of_no_target
    (name : Text)
    (args : List Text)
    (hTarget : target? w.environment args = none) :
    changeDirectoryTo M name args w =
      (do
        World.write .out "cd: HOME not set\n"
        return 1 : Action (World φ δ) Int) w := by
  simp only [changeDirectoryTo, Action.bind_apply,
    Action.get_apply, Outcome.andThen_ok, hTarget]
  rfl

/- Either the directory is entered with status 0 or nothing is. -/
theorem changeDirectoryTo_files
    (M : Machine φ δ)
    (name : Text)
    (args : List Text)
    (w : World φ δ) :
    let done := changeDirectoryTo M name args w
    done.state.files = w.files ∨
      done.result = .ok 0 ∧
        ∃ path, M.files.enter w.files path =
          .ok done.state.files := by
  have hSay (text : Text) (status : Int) :=
    World.say_respects (φ := φ) (δ := δ)
      Effect.grounded_lookup.toSpeech .out text status w
  cases hTarget : target? w.environment args with
  | none =>
      rw [changeDirectoryTo_of_no_target name args hTarget]
      exact Or.inl (hSay _ 1)
  | some path =>
      rw [changeDirectoryTo_of_target name args hTarget]
      cases hEnter : M.files.enter w.files path with
      | ok files =>
          rw [enter_of_ok name hEnter]
          exact Or.inr ⟨rfl, path, hEnter⟩
      | error fault =>
          cases hHost : fault.isHost with
          | true =>
              rw [enter_of_refusal name hEnter hHost]
              exact Or.inl (hSay _ 1)
          | false =>
              rw [enter_of_fault name hEnter hHost]
              exact Or.inl rfl

end Builtin

end LineShell
