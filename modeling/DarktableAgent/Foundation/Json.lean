import Mathlib.Data.Bool.AllAny
import Mathlib.Data.List.Basic
import Mathlib.Data.Rat.Defs

/-! JSON values, object lookup and one-line ASCII serialization.

Members keep their order. Numbers are exact: integers and rationals stay apart,
as they do in the libraries that distinguish `1` from `1.0`. The text of a
non-integer number is a parameter of the serializer.
-/

set_option autoImplicit false

namespace DarktableAgent.Foundation

inductive Json where
  | null
  | bool (value : Bool)
  | int (value : Int)
  | real (value : ℚ)
  | str (value : String)
  | arr (items : List Json)
  | obj (members : List (String × Json))
  deriving Repr, Inhabited

/-- A JSON object, by its members. -/
abbrev JsonObject := List (String × Json)

namespace Json

/-- The member of an object, as a hash-table lookup finds it. -/
def member? : Json → String → Option Json
  | .obj members, name => members.lookup name
  | _, _ => none

def str? : Json → Option String
  | .str value => some value
  | _ => none

def int? : Json → Option Int
  | .int value => some value
  | _ => none

def items? : Json → Option (List Json)
  | .arr items => some items
  | _ => none

@[simp] theorem member?_obj (members : List (String × Json)) (name : String) :
    (Json.obj members).member? name = members.lookup name := rfl

@[simp] theorem str?_str (value : String) : (Json.str value).str? = some value := rfl

@[simp] theorem int?_int (value : Int) : (Json.int value).int? = some value := rfl

@[simp] theorem items?_arr (items : List Json) : (Json.arr items).items? = some items := rfl

end Json

/-- Printable ASCII, the blank included. -/
def Printable (byte : UInt8) : Prop := 32 ≤ byte.toNat ∧ byte.toNat ≤ 126

instance (byte : UInt8) : Decidable (Printable byte) := inferInstanceAs (Decidable (_ ∧ _))

def ascii (text : List Char) : List UInt8 := text.map fun char => UInt8.ofNat char.toNat

def hexDigit (value : Nat) : UInt8 :=
  if value % 16 < 10 then UInt8.ofNat (48 + value % 16) else UInt8.ofNat (87 + value % 16)

/-- One `\uXXXX` escape. -/
def unicodeEscape (unit : Nat) : List UInt8 :=
  [92, 117, hexDigit (unit / 4096), hexDigit (unit / 256), hexDigit (unit / 16), hexDigit unit]

/-- Text outside printable ASCII is escaped, above the basic plane by a surrogate pair. -/
def escapeChar (char : Char) : List UInt8 :=
  if char = '"' then [92, 34]
  else if char = '\\' then [92, 92]
  else if char = '\n' then [92, 110]
  else if char = '\r' then [92, 114]
  else if char = '\t' then [92, 116]
  else if char.toNat = 8 then [92, 98]
  else if char.toNat = 12 then [92, 102]
  else if 32 ≤ char.toNat ∧ char.toNat ≤ 126 then [UInt8.ofNat char.toNat]
  else if char.toNat < 65536 then unicodeEscape char.toNat
  else unicodeEscape (55296 + (char.toNat - 65536) / 1024)
    ++ unicodeEscape (56320 + (char.toNat - 65536) % 1024)

def dumpsString (value : String) : List UInt8 :=
  34 :: value.toList.flatMap escapeChar ++ [34]

def dumpsInt (value : Int) : List UInt8 :=
  if value < 0 then 45 :: ascii (Nat.toDigits 10 value.natAbs) else ascii (Nat.toDigits 10 value.natAbs)

section Dumps

variable (floatRepr : ℚ → List UInt8)

mutual

/-- Compact serialization: no blanks after separators, ASCII only. -/
def Json.dumps : Json → List UInt8
  | .null => ascii ['n', 'u', 'l', 'l']
  | .bool true => ascii ['t', 'r', 'u', 'e']
  | .bool false => ascii ['f', 'a', 'l', 's', 'e']
  | .int value => dumpsInt value
  | .real value => floatRepr value
  | .str value => dumpsString value
  | .arr items => 91 :: dumpsItems items ++ [93]
  | .obj members => 123 :: dumpsMembers members ++ [125]

def dumpsItems : List Json → List UInt8
  | [] => []
  | [item] => item.dumps
  | item :: rest => item.dumps ++ 44 :: dumpsItems rest

def dumpsMembers : List (String × Json) → List UInt8
  | [] => []
  | [(name, value)] => dumpsString name ++ 58 :: value.dumps
  | (name, value) :: rest => dumpsString name ++ 58 :: value.dumps ++ 44 :: dumpsMembers rest

end

end Dumps

theorem hexDigit_printable (value : Nat) : Printable (hexDigit value) := by
  have digits : ∀ digit < 16, Printable
      (if digit < 10 then UInt8.ofNat (48 + digit) else UInt8.ofNat (87 + digit)) := by decide
  exact digits (value % 16) (Nat.mod_lt _ (by decide))

theorem unicodeEscape_printable (unit : Nat) : ∀ byte ∈ unicodeEscape unit, Printable byte := by
  simp only [unicodeEscape, List.forall_mem_cons]
  exact ⟨by decide, by decide, hexDigit_printable _, hexDigit_printable _, hexDigit_printable _,
    hexDigit_printable _, by simp⟩

theorem printable_ite {condition : Prop} [Decidable condition] {yes no : List UInt8}
    (holds : condition → ∀ byte ∈ yes, Printable byte) (fails : ¬ condition → ∀ byte ∈ no, Printable byte) :
    ∀ byte ∈ if condition then yes else no, Printable byte := by
  split
  case isTrue here => exact holds here
  case isFalse here => exact fails here

theorem escapeChar_printable (char : Char) : ∀ byte ∈ escapeChar char, Printable byte := by
  have visible (inside : 32 ≤ char.toNat ∧ char.toNat ≤ 126) : Printable (UInt8.ofNat char.toNat) := by
    have small : char.toNat < 256 := by omega
    simpa [Printable, Nat.mod_eq_of_lt small] using inside
  unfold escapeChar
  -- the seven characters with an escape of their own
  iterate 7 refine printable_ite (fun _ => List.all_iff_forall_prop.mp (by decide)) fun _ => ?_
  refine printable_ite (fun inside => ?_) fun _ => printable_ite (fun _ => ?_) fun _ => ?_
  · simpa only [List.mem_singleton, forall_eq] using visible inside
  · exact unicodeEscape_printable _
  · intro byte member
    rcases List.mem_append.mp member with high | low
    · exact unicodeEscape_printable _ byte high
    · exact unicodeEscape_printable _ byte low

theorem dumpsString_printable (value : String) : ∀ byte ∈ dumpsString value, Printable byte := by
  intro byte member
  simp only [dumpsString, List.mem_append, List.mem_cons, List.mem_flatMap, List.not_mem_nil,
    or_false] at member
  rcases member with (rfl | ⟨char, -, escaped⟩) | rfl
  · decide
  · exact escapeChar_printable char byte escaped
  · decide

theorem digits_printable (value : Nat) : ∀ byte ∈ ascii (Nat.toDigits 10 value), Printable byte := by
  intro byte member
  obtain ⟨digit, inDigits, rfl⟩ := List.mem_map.mp member
  have isDigit := Nat.isDigit_of_mem_toDigits (by decide) (by decide) inDigits
  simp only [Char.isDigit, Bool.and_eq_true, decide_eq_true_eq, ge_iff_le, UInt32.le_iff_toNat_le] at isDigit
  -- a decimal digit is between 48 and 57
  have range : 48 ≤ digit.toNat ∧ digit.toNat ≤ 57 := isDigit
  have small : digit.toNat < 256 := by omega
  have exact : (UInt8.ofNat digit.toNat).toNat = digit.toNat := by
    rw [UInt8.toNat_ofNat', Nat.mod_eq_of_lt small]
  rw [Printable, exact]
  omega

theorem dumpsInt_printable (value : Int) : ∀ byte ∈ dumpsInt value, Printable byte := by
  unfold dumpsInt
  split
  · rw [List.forall_mem_cons]
    exact ⟨by decide, digits_printable _⟩
  · exact digits_printable _

section Printable

variable {floatRepr : ℚ → List UInt8}

mutual

/-- A serialized value is one line of printable ASCII whenever number texts are. -/
theorem Json.dumps_printable (printable : ∀ value, ∀ byte ∈ floatRepr value, Printable byte) :
    (value : Json) → ∀ byte ∈ value.dumps floatRepr, Printable byte
  | .null => List.all_iff_forall_prop.mp (by simp only [Json.dumps]; decide)
  | .bool true => List.all_iff_forall_prop.mp (by simp only [Json.dumps]; decide)
  | .bool false => List.all_iff_forall_prop.mp (by simp only [Json.dumps]; decide)
  | .int value => by simpa only [Json.dumps] using dumpsInt_printable value
  | .real value => by simpa only [Json.dumps] using printable value
  | .str value => by simpa only [Json.dumps] using dumpsString_printable value
  | .arr items => by
    intro byte member
    simp only [Json.dumps, List.mem_append, List.mem_cons, List.not_mem_nil, or_false] at member
    rcases member with (rfl | inside) | rfl
    · decide
    · exact dumpsItems_printable printable items byte inside
    · decide
  | .obj members => by
    intro byte member
    simp only [Json.dumps, List.mem_append, List.mem_cons, List.not_mem_nil, or_false] at member
    rcases member with (rfl | inside) | rfl
    · decide
    · exact dumpsMembers_printable printable members byte inside
    · decide

theorem dumpsItems_printable (printable : ∀ value, ∀ byte ∈ floatRepr value, Printable byte) :
    (items : List Json) → ∀ byte ∈ dumpsItems floatRepr items, Printable byte
  | [] => by simp [dumpsItems]
  | [item] => by simpa only [dumpsItems] using item.dumps_printable printable
  | item :: next :: rest => by
    intro byte member
    rw [dumpsItems.eq_3 _ _ _ (by simp), List.mem_append, List.mem_cons] at member
    rcases member with inItem | rfl | inRest
    · exact item.dumps_printable printable byte inItem
    · decide
    · exact dumpsItems_printable printable (next :: rest) byte inRest

theorem dumpsMembers_printable (printable : ∀ value, ∀ byte ∈ floatRepr value, Printable byte) :
    (members : List (String × Json)) → ∀ byte ∈ dumpsMembers floatRepr members, Printable byte
  | [] => by simp [dumpsMembers]
  | [(name, value)] => by
    intro byte member
    rw [dumpsMembers, List.mem_append, List.mem_cons] at member
    rcases member with inName | rfl | inValue
    · exact dumpsString_printable name byte inName
    · decide
    · exact value.dumps_printable printable byte inValue
  | (name, value) :: next :: rest => by
    intro byte member
    rw [dumpsMembers.eq_3 _ _ _ _ (by simp), List.append_assoc, List.cons_append, List.mem_append, List.mem_cons,
      List.mem_append, List.mem_cons] at member
    rcases member with inName | rfl | inValue | rfl | inRest
    · exact dumpsString_printable name byte inName
    · decide
    · exact value.dumps_printable printable byte inValue
    · decide
    · exact dumpsMembers_printable printable (next :: rest) byte inRest

end

end Printable

end DarktableAgent.Foundation
