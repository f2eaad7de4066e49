import Stencil.CommandLine.Run

namespace Stencil.CommandLine

/-- The cause given for a path that has not been looked at. -/
def unseen : ReadError :=
  .other "not looked at"

/-- What has been seen under paths. -/
abbrev Seen := List (Text × Except ReadError Node)

/-- A file system of which only some paths have been looked at. -/
def diskOf (workingDir : Text) (seen : Seen) : Disk where
  workingDir
  look path := (seen.lookup path).getD (.error unseen)

/-- The cause that an error of the operating system stands for. -/
def causeOf (error : IO.Error) : ReadError :=
  match error with
  | .noFileOrDirectory .. => .missing
  | .inappropriateType .. => .directory
  | .unsupportedOperation .. => .directory
  | error => .other (toString error).toList

/-- Looks at what lies under a path. -/
def lookAt (path : Text) : IO (Except ReadError Node) := do
  try
    let bytes ← IO.FS.readBinFile (String.ofList path)
    return .ok (.file ((String.fromUTF8? bytes).map String.toList))
  catch error =>
    match causeOf error with
    | .directory => return .ok .directory
    | cause => return .error cause

/-- Looks at paths that have not been looked at. -/
def lookAtAll (seen : Seen) (paths : List Text) : IO Seen :=
  paths.foldlM
    (fun seen path => do
      if (seen.lookup path).isSome then return seen
      return seen ++ [(path, ← lookAt path)])
    seen

/-- The values of those variables that are set. -/
def variablesNamed (names : List Text) : IO Environment := do
  let values ← names.mapM fun name => do
    return ((← IO.getEnv (String.ofList name)).map fun value => (name, value.toList)).toList
  return values.flatten

/-- Renders a page, over again whenever a file was needed that had not been looked at. -/
partial def renderSeen (workingDir : Text) (env : Environment) (options : RenderOptions)
    (seen : Seen) : IO Report := do
  match response (diskOf workingDir seen) env options with
  | .error (.site (.render (.unreadable path cause))) =>
    if cause = unseen then
      renderSeen workingDir env options (← lookAtAll seen [path])
    else
      return report (render (diskOf workingDir seen) env options)
  | _ => return report (render (diskOf workingDir seen) env options)

/-- Meets a request. -/
def meet (workingDir : Text) (env : Environment) : Request → IO Report
  | .scan file => do
    return answer (diskOf workingDir (← lookAtAll [] [file])) env (.scan file)
  | .render options => do
    let candidates := Config.candidates (diskOf workingDir []) options.config
    let seen ← lookAtAll [] candidates
    let disk := diskOf workingDir seen
    let env := env ++ (← variablesNamed (candidates.flatMap (Config.referencedNames disk)))
    let wanted := match renderConfig disk env options with
      | .ok config => [config.skin, config.notFound, options.page]
      | .error _ => []
    renderSeen workingDir env options (← lookAtAll seen wanted)
  | request => return answer (diskOf workingDir []) env request

end Stencil.CommandLine

open Stencil

/-- The entry of the program. -/
def main (args : List String) : IO UInt32 := do
  let workingDir := (← IO.currentDir).toString.toList
  let env ← CommandLine.variablesNamed [CommandLine.rootVariable]
  let report ← match CommandLine.parse env (args.map String.toList) with
    | some request => CommandLine.meet workingDir env request
    | none => pure (CommandLine.run (CommandLine.diskOf workingDir []) env (args.map String.toList))
  IO.print (String.ofList report.stdout)
  IO.eprint (String.ofList report.stderr)
  return report.code.toUInt32
