import Conform.Session.Basic
import Conform.Settings

/-! # Putting a session together

What a session works with is made from the settings and from what is asked for explicitly. A schema
that is asked for explicitly takes the place of the one that the settings give for its suffix.
-/

namespace Conform.Setup

/-- The paths of schemas by suffix: those of the settings, and then those that are asked for. -/
def schemaPaths (settings : Settings) (explicit : List (String × String)) :
    List (String × String) :=
  explicit.foldl (fun known (suffix, path) => Entries.put suffix path known) settings.providers

/-- Reads the text of a schema. -/
def readSchema (w : Workspace) (entry : String × String) : Except AccessFault (String × String) :=
  (w.text (FilePath.ofString entry.2)).map fun text => (entry.1, text)

/-- The providers that paths give: one for all of them, or none if there are no paths. -/
def providersOf (w : Workspace) : List (String × String) → Except AccessFault (List Provider)
  | [] => .ok []
  | paths => (paths.mapM (readSchema w)).map fun schemas => [.ofSchemas schemas]

/-- What a session works with. -/
def create (w : Workspace) (display : Display) (settings : Settings)
    (explicit : List (String × String)) (syntaxChecked : List String) :
    Except AccessFault Setup :=
  (providersOf w (schemaPaths settings explicit)).map fun providers =>
    { providers
      host := .ofSuffixes (settings.syntaxChecked ++ syntaxChecked)
      display
      validate := Schema.validate }

end Conform.Setup
