import IconCompiler.Text.Ascii
import IconCompiler.Text.Blank

namespace IconCompiler

inductive Target where
  | react
  | vue
  | svelte
  | webComponent
  deriving DecidableEq, Repr

inductive GenerationError where
  | unknownTarget (text : String)
  | targetDisabled (target : String)
  | invalidName (icon name : String)
  | renderFailed (details : String)
  | invalidTemplate (details : String)
  deriving DecidableEq, Repr

def GenerationError.message : GenerationError → String
  | .unknownTarget text => "Unknown target framework: " ++ text
  | .targetDisabled target => "Target '" ++ target ++ "' is not enabled in this build"
  | .invalidName icon name => "Invalid component name '" ++ name ++ "' for icon '" ++ icon ++ "'"
  | .renderFailed details => "Template error: " ++ details
  | .invalidTemplate details => "Invalid template: " ++ details

namespace Target

def all : List Target := [.react, .vue, .svelte, .webComponent]

def name : Target → String
  | .react => "react"
  | .vue => "vue"
  | .svelte => "svelte"
  | .webComponent => "web-component"

def ofName? (name : String) : Option Target := all.find? fun t => t.name == name

def ofText (text : String) : Except GenerationError Target :=
  match ofName? (Text.asciiLower (Text.trimmed text)) with
  | some t => .ok t
  | none => .error (.unknownTarget text)

def extension : Target → (typescript : Bool) → String
  | .react, true => "tsx"
  | .react, false => "jsx"
  | .svelte, _ => "svelte"
  | _, true => "ts"
  | _, false => "js"

def contentDepth : Target → Nat
  | .react => 3
  | .vue => 5
  | .svelte => 1
  | .webComponent => 1

end Target

end IconCompiler
