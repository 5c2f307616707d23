import TriggerLedger.Text.Blank
/-!
# Canonical language names

Editors name languages in several ways; telemetry has one name for each.  White
space around an editor's name and the case of its ASCII letters do not matter.
-/

namespace TriggerLedger.Language

/-- The name of a language that is missing or not known. -/
def plaintext : String := "plaintext"

/-- The names known for editor languages, with their canonical names. -/
def canonicalNames : List (String × String) :=
  [("python", "python"), ("java", "java"), ("javascript", "javascript"),
   ("javascriptreact", "jsx"), ("jsx", "jsx"), ("typescript", "typescript"),
   ("typescriptreact", "tsx"), ("tsx", "tsx"), ("csharp", "csharp"), ("c", "c"),
   ("cpp", "cpp"), ("c++", "cpp"), ("go", "go"), ("golang", "go"), ("kotlin", "kotlin"),
   ("php", "php"), ("ruby", "ruby"), ("rust", "rust"), ("scala", "scala"),
   ("shellscript", "shell"), ("sh", "shell"), ("shell", "shell"), ("sql", "sql"),
   ("json", "json"), ("yaml", "yaml"), ("hcl", "tf"), ("terraform", "tf"), ("tf", "tf")]

/-- An editor's name without white space around it and in lower case. -/
def normalized (editorName : String) : String :=
  String.ofList ((Text.trimChars editorName.toList).map Char.toLower)

/-- The canonical name of an editor language. -/
def canonical : Option String → String
  | none => plaintext
  | some editorName => (canonicalNames.lookup (normalized editorName)).getD plaintext

end TriggerLedger.Language
