import EventFormation.Json.Content
import EventFormation.Text.Number

namespace EventFormation.Json

def escapedChar (c : Char) : String :=
  match c with
  | '"' => "\\\""
  | '\\' => "\\\\"
  | '\x08' => "\\b"
  | '\x0c' => "\\f"
  | '\n' => "\\n"
  | '\r' => "\\r"
  | '\t' => "\\t"
  | c => if c.toNat < 32 then "\\u" ++ Text.hex 4 c.toNat else String.singleton c

def quotedText (text : String) : String := "\"" ++ String.join (text.toList.map escapedChar) ++ "\""

def Number.text : Number → String
  | natural value => toString value
  | negative value => toString value
  | float value => if value.isFinite then NumeralStyle.json.text value else "null"

/-- What stands between the parts of a value. -/
structure Layout where
  /-- What comes before an item so many containers deep, and before the end of its container. -/
  lineBreak : Nat → String
  colon : String

namespace Layout

def compact : Layout := ⟨fun _ => "", ":"⟩

/-- An item a line, two blanks further in than its container. -/
def lines : Layout := ⟨fun depth => "\n" ++ String.ofList (List.replicate (2 * depth) ' '), ": "⟩

end Layout

/-- A container, empty or with its items set apart. -/
def enclosed (layout : Layout) (depth : Nat) (opening closing : String) (items : List String) : String :=
  if items.isEmpty then opening ++ closing
  else
    opening ++ ",".intercalate (items.map (layout.lineBreak (depth + 1) ++ ·)) ++
      layout.lineBreak depth ++ closing

namespace Content

mutual

def render (layout : Layout) (depth : Nat) : Content → String
  | null => "null"
  | boolean value => toString value
  | number value => value.text
  | text value => quotedText value
  | list items => enclosed layout depth "[" "]" (renderItems layout (depth + 1) {} items).toList
  | object fields => enclosed layout depth "\x7b" "\x7d" (renderFields layout (depth + 1) {} fields).toList

def renderItems (layout : Layout) (depth : Nat) (done : Series String) : List Content → Series String
  | [] => done
  | item :: rest => renderItems layout depth (done.push (render layout depth item)) rest

def renderFields (layout : Layout) (depth : Nat) (done : Series String) :
    List (String × Content) → Series String
  | [] => done
  | (name, value) :: rest =>
    renderFields layout depth
      (done.push (quotedText name ++ layout.colon ++ render layout depth value)) rest

end

def compact (content : Content) : String := content.render Layout.compact 0

def lines (content : Content) : String := content.render Layout.lines 0

def natural (n : Nat) : Content := .number (.natural n)

end Content

end EventFormation.Json
