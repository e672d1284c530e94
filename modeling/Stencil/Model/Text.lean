/-
Module: Stencil.Model.Text
Purpose: The written forms of all values, those of instances among them.
Main exports: Classes.display, Classes.text, World.text
-/
import Stencil.Value.Text

namespace Stencil

namespace Classes

mutual

/-- The form of a value inside a collection: text in quotes, and all else so that its class can be
recognised. -/
def display (classes : Classes) (objects : Objects) : Value → Except Raised String
  | .null => .ok "None"
  | .boolean flag => .ok (if flag then "True" else "False")
  | .integer value => writtenInteger value
  | .double value => .ok value.text
  | .text characters => .ok (String.ofList (Text.quoted characters.toList))
  | .list items => do
      let forms ← displayAll classes objects items
      pure ("[" ++ ", ".intercalate forms ++ "]")
  | .tuple items => do
      let forms ← displayAll classes objects items
      -- A tuple of one item keeps a comma.
      pure ("(" ++ ", ".intercalate forms ++ (if forms.length = 1 then ",)" else ")"))
  | .set items => do
      let forms ← displayAll classes objects items
      pure (if forms.isEmpty then "set()" else "\x7b" ++ ", ".intercalate forms ++ "\x7d")
  | .map entries | .bindings entries => do
      let forms ← displayEntries classes objects entries
      pure ("\x7b" ++ ", ".intercalate forms ++ "\x7d")
  | .bytes octets => .ok (String.ofList (Text.quotedBytes octets))
  | .decimal negative magnitude =>
      .ok ("Decimal('" ++ signedDecimalText negative magnitude ++ "')")
  | .fraction numerator denominator => do
      let above ← writtenInteger numerator
      let below ← writtenInteger denominator
      pure ("Fraction(" ++ above ++ ", " ++ below ++ ")")
  | .complex real imaginary => .ok (complexText real imaginary)
  | .date year month day =>
      .ok ("datetime.date(" ++ integerText year ++ ", " ++ integerText month ++ ", "
        ++ integerText day ++ ")")
  | .object className identity => (classes.classOf className).shown identity objects
  | value => (classes.builtin value.qualifiedName).shown value

/-- The forms of the items of a collection. -/
def displayAll (classes : Classes) (objects : Objects) :
    List Value → Except Raised (List String)
  | [] => .ok []
  | item :: rest => do
      let form ← display classes objects item
      let forms ← displayAll classes objects rest
      pure (form :: forms)

/-- The forms of the entries of a mapping. -/
def displayEntries (classes : Classes) (objects : Objects) :
    List (Value × Value) → Except Raised (List String)
  | [] => .ok []
  | (key, value) :: rest => do
      let keyForm ← display classes objects key
      let valueForm ← display classes objects value
      let forms ← displayEntries classes objects rest
      pure ((keyForm ++ ": " ++ valueForm) :: forms)

end

/-- The text of a value where it stands alone: text as it is, null and booleans by the words of the
expression language. -/
def text (classes : Classes) (objects : Objects) (value : Value) : Except Raised String :=
  match value with
  | .null => .ok "null"
  | .boolean flag => .ok (if flag then "true" else "false")
  | .text characters => .ok characters
  | .decimal negative magnitude => .ok (signedDecimalText negative magnitude)
  | .fraction numerator denominator => fractionText numerator denominator
  | .date year month day => .ok (dateText year month day)
  | .object className identity => (classes.classOf className).text identity objects
  | .integer _ | .double _ | .list _ | .tuple _ | .set _ | .map _ | .bindings _ | .bytes _
  | .complex _ _ =>
      classes.display objects value
  | _ => (classes.builtin value.qualifiedName).text value

end Classes

/-- The text of a value in a state of the objects. -/
def World.text (world : World) (value : Value) : Except Raised String :=
  world.classes.text world.toObjects value

end Stencil
