import PageTemplates.Configuration
import PageTemplates.Settings

/-!
The settings of a renderer in a configuration. They are a section of their own; without the section every
setting has its usual value.
-/

namespace PageTemplates.Configuration

/-- The name of the section. -/
def sectionName : Text := "templates"

/-- The settings in the section, with the warnings on the way. The section has to be a mapping. -/
def settings (configuration : Configuration) : List LogLine × Except Problem Settings :=
  match configuration.at? [.text sectionName] with
  | none => Settings.ofData (.dict [])
  | some tree =>
    if tree.isMapping then Settings.ofData (configuration.dataOf tree)
    else ([], .error (.fault (.configInvalid (.text sectionName) (.text "expected a mapping"))))

end PageTemplates.Configuration
