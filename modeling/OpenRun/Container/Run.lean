import OpenRun.Container.Listing

/-!
# The commands of the container tool that report only failure

`RemoveImage`, `RemoveContainer`, `StopContainer`, `StartContainer`, `RunContainer` and the
build step of `BuildImage` run the container tool (`docker` or `podman`) once and return
`nil`, or an error with the tool's combined output and error under a text of their own. They
are one definition, `runReporting`, applied to each command's arguments and text.
`RemoveContainer` reports its failure with the text of `RemoveImage`.

`RunContainer` publishes the app's port on `127.0.0.1` with a host port the tool picks, labels
the container with the app's id and, for a production app, its version and commit, and passes
the environment and the container options one argument each, the image last. Go visits the two
maps in an order it picks at random: the model takes them as lists in the order visited.

The build step of `BuildImage` runs in the source directory once the build lock is held; its
error is what `buildError` records in the model of the build lock.
-/

set_option autoImplicit false

namespace OpenRun.Container

/-- A command that reports only failure: `nil`, or the text `failure` with the combined output
and the error. -/
def runReporting (run : ToolRun) (dir : Option String) (args : List String) (failure : String) :
    Option String :=
  match run dir args with
  | (_, none) => none
  | (output, some err) => some (failure ++ ": " ++ output ++ " : " ++ err)

/-- `ContainerCommand.RemoveImage`. -/
def removeImage (run : ToolRun) (containerCommand name : String) : Option String :=
  runReporting run none [containerCommand, "rmi", name] "error removing image"

/-- `ContainerCommand.RemoveContainer`. -/
def removeContainer (run : ToolRun) (containerCommand name : String) : Option String :=
  runReporting run none [containerCommand, "rm", name] "error removing image"

/-- `ContainerCommand.StopContainer`. -/
def stopContainer (run : ToolRun) (containerCommand name : String) : Option String :=
  runReporting run none [containerCommand, "stop", "-t", "1", name] "error stopping container"

/-- `ContainerCommand.StartContainer`. -/
def startContainer (run : ToolRun) (containerCommand name : String) : Option String :=
  runReporting run none [containerCommand, "start", name] "error starting container"

/-- `LABEL_PREFIX`. -/
def labelPrefix : String := "dev.openrun."

/-- What `RunContainer` reads of the app entry: its id, whether it is a dev app, and its
version's number, commit and commit message. -/
structure RunApp where
  id : String
  isDev : Bool
  version : Int
  gitCommit : String
  gitMessage : String

/-- The arguments of `RunContainer`, with the environment and the container options in the
order Go visits the maps. -/
def runContainerArgs (appEntry : RunApp) (containerName imageName : String) (port : Int)
    (envMap : List (String × String)) (mountArgs : List String)
    (containerOptions : List (String × String)) : List String :=
  ["run", "--name", containerName, "--detach", "--publish", "127.0.0.1::" ++ toString port] ++
    mountArgs ++ ["--label", labelPrefix ++ "app.id=" ++ appEntry.id] ++
    (if appEntry.isDev then ["--label", labelPrefix ++ "dev=true"]
     else ["--label", labelPrefix ++ "dev=false",
       "--label", labelPrefix ++ "app.version=" ++ toString appEntry.version,
       "--label", labelPrefix ++ "git.sha=" ++ appEntry.gitCommit,
       "--label", labelPrefix ++ "git.message=" ++ appEntry.gitMessage]) ++
    envMap.flatMap (fun kv => ["--env", kv.1 ++ "=" ++ kv.2]) ++
    containerOptions.flatMap (fun kv => if kv.2 = "" then ["--" ++ kv.1] else ["--" ++ kv.1 ++ "=" ++ kv.2]) ++
    [imageName]

/-- `ContainerCommand.RunContainer`. -/
def runContainer (run : ToolRun) (containerCommand : String) (appEntry : RunApp)
    (containerName imageName : String) (port : Int) (envMap : List (String × String))
    (mountArgs : List String) (containerOptions : List (String × String)) : Option String :=
  runReporting run none
    (containerCommand :: runContainerArgs appEntry containerName imageName port envMap mountArgs
      containerOptions)
    "error running container"

/-- The arguments of the build in `BuildImage`, with the build arguments in the order Go visits
the map. -/
def buildImageArgs (containerCommand name containerFile : String)
    (containerArgs : List (String × String)) : List String :=
  [containerCommand, "build", "-t", name, "-f", containerFile] ++
    containerArgs.flatMap (fun kv => ["--build-arg", kv.1 ++ "=" ++ kv.2]) ++ ["."]

/-- The build step of `ContainerCommand.BuildImage`, which runs in the source directory once
the build lock is held. -/
def buildImageCommand (run : ToolRun) (containerCommand name sourceUrl containerFile : String)
    (containerArgs : List (String × String)) : Option String :=
  runReporting run (some sourceUrl) (buildImageArgs containerCommand name containerFile containerArgs)
    "error building image"

end OpenRun.Container
