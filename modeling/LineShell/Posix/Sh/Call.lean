import LineShell.Posix.Sh.Builtin

/-
  Simple commands: what their words call, and the call with
  redirections and assignments around it.

  Main declarations:
    * `Posix.Sh.Call`
    * `Posix.Sh.callOf`
    * `Posix.Sh.callFunction`
    * `Posix.Sh.runSimple`
-/

------------------------------------------------------------
-- Words
------------------------------------------------------------

namespace LineShell

namespace Posix

namespace Sh

/- Fields that were passed or read, and the words left. -/
structure Words where
  passed : List Text
  fields : List Text
  words : List Word

/-
  How the command of a name is looked for, and what was found
  at first: whether functions count, along which path if not
  the usual one, and whether assignments before it last.
-/
structure Search where
  found : Found
  isLasting : Bool := false
  withFunctions : Bool := true
  searchPath : Option Text := none

/-
  What the words of a command call: all fields, the name and
  the arguments that are left without what only says how to
  look for it, and how it is looked for.
-/
structure Call extends Search where
  shown : List Text
  argv : List Text

/- Expand a word as an argument of a command. -/
def expandArgument
    (calls : Calls)
    (asAssignment : Bool)
    (word : Word) : Act (List Text) := do
  match asAssignment, Grammar.assignment? word with
  | true, some assignment =>
      let value ← expandToText calls assignment.word true
      return [assignment.name ++ '=' :: value]
  | _, _ => expandToFields calls word

/- Expand words up to the first that gives any fields. -/
def firstFields
    (calls : Calls) :
    List Word → Act (List Text × List Word)
  | [] => return ([], [])
  | word :: words => do
      match ← expandToFields calls word with
      | [] => firstFields calls words
      | fields => return (fields, words)

/- Make sure that there is one more field, if possible. -/
def ensureField
    (calls : Calls)
    (fields : List Text)
    (words : List Word) : Act (List Text × List Word) :=
  if fields.isEmpty then
    firstFields calls words
  else
    return (fields, words)

/-
  Skip the options after the name of a command that only says
  how to look for another.  The answer is nothing if there is
  no other command, or else the one that is wanted and whether
  the standard search path is meant.
-/
def skipOptions
    (calls : Calls) :
    Nat → Bool → Words → Act (Option (Words × Bool))
  | 0, _, _ => return none
  | fuel + 1, isStandard, w => do
      let (fields, words) ← ensureField calls w.fields w.words
      match fields with
      | [] => return none
      | ['-', '-'] :: rest =>
          let (rest, words) ← ensureField calls rest words
          if rest.isEmpty then
            return none
          else
            return some
              (⟨w.passed ++ [['-', '-']], rest, words⟩,
                isStandard)
      | ('-' :: letter :: letters) :: rest =>
          if (letter :: letters).all (· == 'p') then
            skipOptions calls fuel true
              ⟨w.passed ++ ['-' :: letter :: letters], rest,
                words⟩
          else
            return none
      | fields =>
          return some (⟨w.passed, fields, words⟩, isStandard)

/- Whether the name alone only says how to look for another. -/
def isIndirect
    (name : Text) : Bool :=
  name == "command".toList

/-
  What words call, given how to look for it, and whether the
  command is one whose assignments last.  The first argument
  bounds the number of steps.
-/
def searchWithin
    (calls : Calls)
    (withFunctions : Bool)
    (searchPath : Option Text)
    (isLasting : Option Bool) :
    Nat → Words → Act (Words × Search)
  | 0, w => return (w, { found := .builtin })
  | fuel + 1, w => do
      let s ← get
      let name := w.fields.headD []
      let found :=
        find s name (searchPath.getD s.searchPath) withFunctions
      let isBuiltin := found matches .builtin
      let lasting := isLasting.getD (isBuiltin && isSpecial name)
      let here : Words × Search :=
        (w, ⟨found, lasting, withFunctions, searchPath⟩)
      if isBuiltin && isIndirect name then
        let inner : Words :=
          ⟨w.passed ++ [name], w.fields.tail, w.words⟩
        match ← skipOptions calls
            (w.fields.length + w.words.length + 1) false inner with
        | none => return here
        | some (inner, isStandard) =>
            let path :=
              if isStandard then some standardSearchPath
              else searchPath
            searchWithin calls false path (some lasting) fuel inner
      else
        return here

/- What words call, if they give any fields. -/
def callOf
    (calls : Calls)
    (words : List Word) : Act (Option Call) := do
  let (fields, rest) ← firstFields calls words
  if fields.isEmpty then
    return none
  else
    let (w, search) ← searchWithin calls true none none
      (fields.length + rest.length + 1) ⟨[], fields, rest⟩
    let asAssignment :=
      (search.found matches .builtin) &&
        takesAssignments (w.fields.headD [])
    let later ← w.words.mapM (expandArgument calls asAssignment)
    let argv := w.fields ++ later.flatten
    return some
      { search with shown := w.passed ++ argv, argv := argv }

end Sh

end Posix

end LineShell

------------------------------------------------------------
-- Tracing
------------------------------------------------------------

namespace LineShell

namespace Posix

namespace Sh

/- The text that stands before a command that is shown. -/
def traceStart
    (calls : Calls) : Act Text := do
  let s ← get
  let given := (s.value? "PS4").getD []
  let (parsed, _) :=
    (Lexing.parts (Grammar.level (given.length + 1)).inner
      { context := .document }).run.run { rest := given }
  match parsed with
  | .error fault => do
      warn ("Syntax error: ".toList ++ fault.message)
      return given
  | .ok word => do
      let result ← attempt (expandToText calls word)
      modify fun after =>
        { after with status := s.status, options := s.options }
      return result.toOption.getD given

/- Show a command on an open file, if that is wanted. -/
def showCommand
    (calls : Calls)
    (opened : Option Nat)
    (texts : List Text) : Act Unit := do
  let s ← get
  if s.options.contains 'x' then
    set { s with options := s.options.filter (· != 'x') }
    let start ← traceStart calls
    let line := start ++ Text.unwords texts ++ ['\n']
    modify fun after =>
      let system :=
        match opened with
        | some id =>
            (after.system.put id line).toOption.getD after.system
        | none => after.system
      { after with system := system, options := s.options }

end Sh

end Posix

end LineShell

------------------------------------------------------------
-- Assignments
------------------------------------------------------------

namespace LineShell

namespace Posix

namespace Sh

/- Remember a variable in the last frame, once. -/
def saveVariable
    (name : Text) : Act Unit :=
  modify fun s =>
    match s.saved with
    | frame :: frames =>
        if (Table.find? name frame).isSome then
          s
        else
          { s with
            saved :=
              (frame ++ [(name, s.entry? name)]) :: frames }
    | [] => s

/- Drop frames until so many are left, and restore variables. -/
def dropFrames
    (count : Nat)
    (s : State) : State :=
  let dropped := s.saved.take (s.saved.length - count)
  let restoredState := dropped.foldl
    (fun s frame => restored frame s) s
  { restoredState with
    saved := s.saved.drop (s.saved.length - count) }

/-
  Carry out an assignment before a command, for the command
  only or for good; the answer shows it.
-/
def assign
    (calls : Calls)
    (isLocal isExported : Bool)
    (assignment : Assignment) : Act Text := do
  let value ← expandToText calls assignment.word true
  let name := assignment.name
  if isLocal then
    saveVariable name
  assignVariable name value
  if isLocal || isExported then
    exportVariable name
  return name ++ '=' :: value

end Sh

end Posix

end LineShell

------------------------------------------------------------
-- Calling
------------------------------------------------------------

namespace LineShell

namespace Posix

namespace Sh

/- How deep calls of functions can be nested. -/
def mostFunctions : Nat :=
  1000

/- Call a function. -/
def callFunction
    (calls : Calls)
    (isTested : Bool)
    (body : Command)
    (args : List Text) : Act Nat := do
  let s ← get
  if mostFunctions ≤ s.functionDepth then
    fail ("Maximum function recursion depth (".toList ++
      Text.ofNat mostFunctions ++ ") reached".toList)
  set { s with
    parameters := args
    functionDepth := s.functionDepth + 1
    loops := 0
    optionIndex := 1
    optionOffset := none }
  ensuring (calls.run body { isTested := isTested })
    fun after =>
      { after with
        parameters := s.parameters
        functionDepth := s.functionDepth
        loops := s.loops
        optionIndex := s.optionIndex
        optionOffset := s.optionOffset }
  endReturn
  return (← get).status

/- Run what was found for a call. -/
def runFound
    (calls : Calls)
    (manner : Manner)
    (call : Call)
    (found : Found) : Act Nat := do
  let name := call.argv.headD []
  match found with
  | .function body =>
      callFunction calls manner.isTested body call.argv.tail
  | .builtin =>
      runBuiltin calls manner.isTested call.isLasting name
        call.argv.tail
  | .file path others =>
      if call.searchPath.isNone then
        noteLocation name found
      runFile calls manner call.argv (path :: others)
  | .missing errno =>
      if call.searchPath.isNone then
        noteLocation name found
      warn (name ++ ": " ++ reasonOf errno)
      return 127

/- Whether a call keeps its redirections. -/
def keepsRedirects
    (call : Option Call) : Bool :=
  match call with
  | some call =>
      (call.found matches .builtin) &&
        call.argv.head? == some "exec".toList
  | none => false

/-
  Run a call with its assignments, when redirections are in
  place.  Commands are shown on the standard error from before
  them.
-/
def runCall
    (calls : Calls)
    (manner : Manner)
    (assignments : List Assignment)
    (opened : Option Nat)
    (call : Option Call) : Act Nat := do
  let depth := (← get).saved.length
  match call with
  | none =>
      let shown ← assignments.mapM (assign calls false false)
      showCommand calls opened shown
      return (← get).outputStatus
  | some call =>
      let isLocal := !call.isLasting
      if isLocal then
        modify fun s => { s with saved := [] :: s.saved }
      let isExported :=
        keepsRedirects (some call) && 1 < call.argv.length
      let shown ←
        assignments.mapM (assign calls isLocal isExported)
      showCommand calls opened (shown ++ call.shown)
      let s ← get
      let found :=
        find s (call.argv.headD [])
          (call.searchPath.getD s.searchPath)
          call.withFunctions
      let status ← runFound calls manner call found
      modify (dropFrames depth)
      return status

/- Run a simple command; the answer is its status. -/
def runSimple
    (calls : Calls)
    (manner : Manner)
    (assignments : List Assignment)
    (words : List Word)
    (redirects : List Redirect) : Act Nat := do
  modify fun s => { s with outputStatus := 0 }
  let call ← callOf calls words
  let ready ← redirects.mapM (readied calls)
  let before := (← get).process
  let restore (s : State) : State :=
    { s with
      process :=
        { s.process with descriptors := before.descriptors } }
  match ← attempt (redirectAll calls ready) with
  | .error .failed =>
      modify restore
      setStatus 2
      if call.any (·.isLasting) then
        throw .failed
      else
        return 2
  | .error stop =>
      modify restore
      throw stop
  | .ok _ =>
      let opened := before.opened? 2
      match ← attempt
          (runCall calls manner assignments opened call) with
      | .ok status =>
          if !keepsRedirects call then
            modify restore
          return status
      | .error stop =>
          modify restore
          throw stop

end Sh

end Posix

end LineShell
