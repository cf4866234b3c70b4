/-
Settings from a file, and all layers together.

The file is the one named, or else the nearest one in the working directory and
the directories above it. Defaults come first, then the file, the environment,
and what was asked for directly; each layer has to leave valid settings.
-/
import RouteDoc.Settings.Environment
import RouteDoc.Workspace
import RouteDoc.Yaml

namespace RouteDoc.Settings

/-- The name of a settings file. -/
def fileName : String := ".swagcomment.yaml"

/-- A directory and those above it, innermost first; a place is written from the inside. -/
def upward : List String → List Place
  | [] => [[]]
  | c :: rest => (c :: rest).reverse :: upward rest

/-- The settings file in a directory or in the nearest one above it. -/
def find (w : Workspace) (start : Option String) : Option String :=
  let absolute := PathText.absolute w.cwdText (start.getD "")
  let components := (PathText.components absolute).filter fun c => c != ""
  let candidates := (upward components.reverse).map fun p =>
    Workspace.placeText (p ++ [fileName])
  candidates.find? w.isFile

/-- The mapping in a settings file; an empty file has no entries. -/
def loadFile (w : Workspace) (path : String) : Except Failure (List (Value × Value)) :=
  match w.read path with
  | .error fault => .error (.settings (.unreadableFile path fault))
  | .ok bytes =>
    match Text.decodeByBlocks bytes with
    | .error fault => .error (.undecodable fault)
    | .ok chars =>
      match Yaml.load (Text.unifyLines chars) with
      | .error .invalid => .error (.settings (.invalidYaml path "the text is not valid YAML"))
      | .error (.value fault) => .error (.value fault)
      | .ok .null => .ok []
      | .ok (.map entries) => .ok entries
      | .ok _ => .error (.settings (.notMapping path))

/-- Settings with those of a file over them. -/
def overFile (processors : Option Int) (w : Workspace) (path : String) (s : Settings) :
    Except Failure Settings := do
  let entries ← loadFile w path
  let layer ← layerOf entries
  s.override processors layer

/-- The settings of all layers. -/
def resolve (processors : Option Int) (w : Workspace) (path : Option String) (env : Environment)
    (asked : Layer) : Except Failure Settings := do
  let s ← make processors []
  let s ← match path.orElse fun _ => find w none with
    | none => pure s
    | some path => s.overFile processors w path
  let fromEnvironment ← (environmentLayer env).mapError .settings
  let s ← s.override processors fromEnvironment
  s.override processors asked

end RouteDoc.Settings
