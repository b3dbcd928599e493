import ChannelAccess.Json
import ChannelAccess.Text.Quoted

/-!
# Labelled choices

Several types of the library have finitely many values, each with a label that stands for it in text
and in JSON. In JSON a choice is either its label or an object whose only field is named by the
label and is null.
-/

namespace ChannelAccess

set_option autoImplicit false

inductive JsonError where
  | wrongKind (found : Json) (expected : String)
  | unknownLabel (label : String) (expected : List String)
  | notOneField
  | badText (problem : String)

/-- The kind of a JSON value in messages, with its content where that is short. -/
def Json.kind : Json → String
  | .null => "null"
  | .bool value => "boolean `" ++ String.ofList (Json.boolText value) ++ "`"
  | .integer value => "integer `" ++ String.ofList (Json.integerText value) ++ "`"
  | .fraction value => "floating point `" ++ String.ofList value.text ++ "`"
  | .text value => "string " ++ Text.quoteText value
  | .array _ => "sequence"
  | .object _ => "map"

def labelsPhrase : List String → String
  | [] => "there are no variants"
  | [only] => "expected `" ++ only ++ "`"
  | [first, second] => "expected `" ++ first ++ "` or `" ++ second ++ "`"
  | several => "expected one of " ++ ", ".intercalate (several.map fun label => "`" ++ label ++ "`")

def JsonError.message : JsonError → String
  | .wrongKind found expected => "invalid type: " ++ found.kind ++ ", expected " ++ expected
  | .unknownLabel label expected => "unknown variant `" ++ label ++ "`, " ++ labelsPhrase expected
  | .notOneField => "invalid value: map, expected map with a single key"
  | .badText problem => problem

/-- The values of a finite type in order, and their labels. -/
structure Choice (α : Type) where
  values : List α
  label : α → String

namespace Choice

variable {α : Type}

def ofLabel? (choice : Choice α) (label : String) : Option α :=
  choice.values.find? fun value => choice.label value == label

def ofLabel (choice : Choice α) (label : String) : Except JsonError α :=
  match choice.ofLabel? label with
  | some value => .ok value
  | none => .error (.unknownLabel label (choice.values.map choice.label))

def ofJson (choice : Choice α) : Json → Except JsonError α
  | .text label => choice.ofLabel label
  | .object [(label, content)] =>
      match choice.ofLabel label with
      | .error problem => .error problem
      | .ok value =>
          match content with
          | .null => .ok value
          | other => .error (.wrongKind other "unit")
  | .object _ => .error .notOneField
  | other => .error (.wrongKind other "string or map")

end Choice

end ChannelAccess
