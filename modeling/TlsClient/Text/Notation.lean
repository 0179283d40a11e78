import TlsClient.Text.Invisible

/-!
# The notation of values

How values are written in error messages and log lines: a record as its name and its fields in
braces, a constructor with its arguments in parentheses, a list in brackets, a text in quotes.
-/

namespace TlsClient

/-- Types whose values have a written form. -/
class Describe (α : Type) where
  /-- The written form of a value. -/
  describe : α → String

namespace Text

def fields (fs : List (String × String)) : String :=
  ", ".intercalate (fs.map fun (name, value) => name ++ ": " ++ value)

/-- A record with all its fields. -/
def record (name : String) (fs : List (String × String)) : String :=
  name ++ " \x7b " ++ fields fs ++ " \x7d"

/-- A record that keeps some of its fields to itself. -/
def openRecord (name : String) (fs : List (String × String)) : String :=
  name ++ " \x7b " ++ ", ".intercalate (fs.map (fun (n, v) => n ++ ": " ++ v) ++ [".."]) ++ " \x7d"

/-- A constructor with its arguments. -/
def applied (name : String) (args : List String) : String :=
  name ++ "(" ++ ", ".intercalate args ++ ")"

/-- A list of written values. -/
def list (items : List String) : String := "[" ++ ", ".intercalate items ++ "]"

/-- A value that may be absent. -/
def optional : Option String → String
  | none => "None"
  | some s => applied "Some" [s]

/-- A number in lower-case hexadecimal, without leading zeros. -/
def hexNumber (n : Nat) : String := String.ofList (Nat.toDigits 16 n)

/-- One character of a quoted text. -/
def quotedChar (c : Char) : String :=
  if c = '"' then "\\\""
  else if c = '\\' then "\\\\"
  else if c = '\n' then "\\n"
  else if c = '\t' then "\\t"
  else if c = '\r' then "\\r"
  else if c = '\x00' then "\\0"
  else if isInvisible c then "\\u\x7b" ++ hexNumber c.toNat ++ "\x7d"
  else c.toString

/-- A text in quotes, with quotes, backslashes and invisible characters escaped. -/
def quoted (s : String) : String := "\"" ++ String.join (s.toList.map quotedChar) ++ "\""

end Text

export Describe (describe)

instance : Describe Nat := ⟨fun n => toString n⟩

instance {α : Type} [Describe α] : Describe (List α) := ⟨fun xs => Text.list (xs.map describe)⟩

instance {α : Type} [Describe α] : Describe (Option α) := ⟨fun x => Text.optional (x.map describe)⟩

end TlsClient
