import DarktableAgent.Foundation.Json

/-! JSON documents as Python reads them.

A Python text is a sequence of code points, and an escape such as `\ud800` puts a
surrogate into it that stands for no character. Such a text can be stored and
compared, but it has no encoding.
-/

set_option autoImplicit false

namespace DarktableAgent.Foundation

inductive CodePoint where
  | char (value : Char)
  -- U+D800 and the 2047 code points behind it
  | surrogate (index : Fin 2048)
  deriving DecidableEq, Repr

def CodePoint.char? : CodePoint → Option Char
  | .char value => some value
  | .surrogate _ => none

abbrev PyText := List CodePoint

namespace PyText

def ofString (text : String) : PyText := text.toList.map .char

/-- The text in UTF-8, unless a surrogate stands in it. -/
def encode? (text : PyText) : Option String := (text.mapM CodePoint.char?).map String.ofList

@[simp] theorem encode?_ofString (text : String) : (ofString text).encode? = some text := by
  have chars : ∀ chars : List Char, (chars.map CodePoint.char).mapM CodePoint.char? = some chars := by
    intro chars
    induction chars with
    | nil => rfl
    | cons char rest ih => simp [CodePoint.char?, ih]
  simp [encode?, ofString, chars]

end PyText

/-- What `json.loads` returns. -/
inductive PyJson where
  | null
  | bool (value : Bool)
  | int (value : Int)
  | real (value : ℚ)
  | str (text : PyText)
  | arr (items : List PyJson)
  | obj (members : List (PyText × PyJson))
  deriving Inhabited

namespace PyJson

/-- A text without surrogates. -/
def ofString (text : String) : PyJson := .str (.ofString text)

def member? : PyJson → String → Option PyJson
  | .obj members, name => members.lookup (.ofString name)
  | _, _ => none

def str? : PyJson → Option PyText
  | .str text => some text
  | _ => none

/-- The value as a text that can be encoded. -/
def text? (value : PyJson) : Option String := value.str?.bind PyText.encode?

@[simp] theorem text?_ofString (text : String) : (ofString text).text? = some text :=
  PyText.encode?_ofString text

end PyJson

end DarktableAgent.Foundation
