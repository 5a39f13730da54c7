import TypedFormat.Builtin
import TypedFormat.Decimal.Shortest
import TypedFormat.Value

/-!
# Renderers

A renderer gives the text of a value, or the fault that stops the discharge: the value has another type than the
renderer takes, or the renderer gives up on it. The renderers of the combinators are here, and a catalogue of renderers by
name.
-/

namespace TypedFormat

/-- The text of a value, or why there is none. -/
abbrev Renderer := Value → Except Fault String

/-- The decimal text of an integer. -/
def integerText (i : Int) : String :=
  match i with
  | .ofNat n => String.ofList (Nat.toDigits 10 n)
  | .negSucc n => String.ofList ('-' :: Nat.toDigits 10 (n + 1))

namespace Value

/-- The integer that the value is. -/
def int? : Value → Except Fault Int
  | .int i => .ok i
  | _ => .error .typeMismatch

/-- The text that the value is. -/
def string? : Value → Except Fault String
  | .string s => .ok s
  | _ => .error .typeMismatch

/-- The truth value that the value is. -/
def bool? : Value → Except Fault Bool
  | .bool b => .ok b
  | _ => .error .typeMismatch

/-- The values that the value lists. -/
def list? : Value → Except Fault (List Value)
  | .list vs => .ok vs
  | _ => .error .typeMismatch

/-- The integers that the value lists. -/
def ints? (v : Value) : Except Fault (List Int) := do (← v.list?).mapM int?

/-- The text of any value that is not a list. Truth values are written in lower case. -/
def display : Renderer
  | .bool b => .ok (if b then "true" else "false")
  | .int i => .ok (integerText i)
  | .float bits => .ok (Decimal.ofBits64 bits)
  | .string s => .ok s
  | .char c => .ok c.toString
  | .sized _ i => .ok (integerText i)
  | .float32 bits => .ok (Decimal.ofBits32 bits)
  | .list _ => .error .typeMismatch

end Value

/-- The renderer of the placeholder that a combinator makes. Truth values are capitalised; texts stand as they are. -/
def Combinator.render : Combinator → Renderer
  | .boolean, v => (fun b => if b then "True" else "False") <$> v.bool?
  | .int, v => integerText <$> v.int?
  | .float, .float bits => .ok (Decimal.ofBits64 bits)
  | .float, _ => .error .typeMismatch
  | .string, v => v.string?
  | .display, v => v.display

namespace Renderer

/-- A list of integers with a separator between any two. -/
def intsSeparated (separator : String) : Renderer := fun v => do
  pure (separator.intercalate ((← v.ints?).map integerText))

/-- A list of integers in square brackets. -/
def bracketList : Renderer := fun v => (fun s => "[" ++ s ++ "]") <$> intsSeparated ", " v

/-- An integer after a number sign. -/
def hash : Renderer := fun v => (fun i => "#" ++ integerText i) <$> v.int?

/-- A text in double quotes. -/
def quote : Renderer := fun v => (fun s => "\"" ++ s ++ "\"") <$> v.string?

/-- A text in braces. -/
def braces : Renderer := fun v => (fun s => "\x7b" ++ s ++ "\x7d") <$> v.string?

/-- The number of bytes of a text. -/
def byteLength : Renderer := fun v => (fun s => integerText s.utf8ByteSize) <$> v.string?

/-- The scalars of a text from the last to the first. -/
def reversed : Renderer := fun v => (fun s => String.ofList s.toList.reverse) <$> v.string?

/-- A text with its ASCII letters in upper case. -/
def upper : Renderer := fun v => (fun s => s.map Char.toUpper) <$> v.string?

/-- A truth value in words. -/
def yesNo : Renderer := fun v => (fun b => if b then "yes" else "no") <$> v.bool?

/-- Nothing for any value. -/
def drop : Renderer := fun _ => .ok ""

/-- One entry: a list that starts with a text and an integer. -/
def entry (v : Value) : Except Fault String := do
  match ← v.list? with
  | key :: n :: _ => pure ((← key.string?) ++ "=" ++ integerText (← n.int?))
  | _ => throw .typeMismatch

/-- A list of entries, each a key and a number with an equals sign between. All are checked before any is written. -/
def entries : Renderer := fun v => do pure (", ".intercalate (← (← v.list?).mapM entry))

/-- Gives up on any value. -/
def fail : Renderer := fun _ => .error (.panic "renderer failed")

/-- An integer that is not negative; gives up on others. -/
def nonNegative : Renderer := fun v => do
  let i ← v.int?
  if i < 0 then throw (.panic ("negative: " ++ integerText i))
  pure (integerText i)

/-- The catalogue: renderers by name. -/
def catalogue : List (String × Renderer) :=
  [("show_int_list", intsSeparated "; "), ("bracket_list", bracketList), ("hash", hash), ("quote", quote),
    ("braces", braces), ("byte_len", byteLength), ("reverse", reversed), ("upper", upper), ("yes_no", yesNo),
    ("drop", drop), ("entries", entries), ("fail", fail), ("non_negative", nonNegative)]

/-- The renderer of that name. -/
def ofName? (name : String) : Option Renderer := catalogue.lookup name

end Renderer

end TypedFormat
