/-
Module: Stencil.Yaml.Document
Purpose: The value of a YAML document.
Main exports: Node.value, Node.faults, readDocument
-/
import Stencil.Value.Equality
import Stencil.Yaml.Node

namespace Stencil.Yaml

/-- Whether a document may contain a character at all. -/
def isAllowed (character : Char) : Bool :=
  let code := character.toNat
  code = 0x09 || code = 0x0a || code = 0x0d || (0x20 ≤ code && code ≤ 0x7e) || code = 0x85
    || (0xa0 ≤ code && code ≤ 0xfffd) || 0x10000 ≤ code

/-- A value as a key: a list is one by its items. -/
def keyOf : Value → Value
  | .list items => .tuple items
  | value => value

/-- Faults by the depth at which they are noticed, put together place by place. -/
def mergeLevels : List (List Fault) → List (List Fault) → List (List Fault)
  | [], right => right
  | left, [] => left
  | one :: left, two :: right => (one ++ two) :: mergeLevels left right

mutual

/-- Whether two keys are one: scalars by value, lists item by item. -/
def sameKey : Value → Value → Bool
  | .tuple left, .tuple right => sameKeys left right
  | left, right => left.scalarEquals right

/-- Whether the keys of two lists are the same, place by place. -/
def sameKeys : List Value → List Value → Bool
  | [], [] => true
  | one :: left, two :: right => sameKey one two && sameKeys left right
  | _, _ => false

end

namespace Node

mutual

/-- The value of a node.  A scalar that cannot be is null. -/
def value : Node → Value
  | plain written =>
      match resolveScalar written with
      | .ok value => value
      | .error _ => .null
  | quoted content => .text (String.ofList content)
  | list items => .list (values items)
  | map entries => .map (entryValues entries)

/-- The values of items. -/
def values : List Node → List Value
  | [] => []
  | item :: rest => item.value :: values rest

/-- The values of entries. -/
def entryValues : List (Node × Node) → List (Value × Value)
  | [] => []
  | (key, item) :: rest => (keyOf key.value, item.value) :: entryValues rest

end

/-- What is wrong with a key among those that come before it.  A mapping is no key. -/
def keyFaults (seen : List Value) (key : Value) : List Fault :=
  match key with
  | .map _ => [.malformed]
  | _ => if seen.any (sameKey · key) then [.duplicateKey] else []

mutual

/-- What is wrong with a node, by the depth at which it is noticed: what is inside lists and mappings
is looked at only when all that stands beside them has been. -/
def faults : Node → List (List Fault)
  | plain written =>
      match resolveScalar written with
      | .ok _ => []
      | .error fault => [[fault]]
  | quoted _ => []
  | list items => [] :: itemFaults items
  | map entries => [] :: entryFaults [] entries

/-- What is wrong with items. -/
def itemFaults : List Node → List (List Fault)
  | [] => []
  | item :: rest => mergeLevels item.faults (itemFaults rest)

/-- What is wrong with entries, given the keys before them.  A key is looked at to its full depth, then
its value, and then whether the key is new. -/
def entryFaults (seen : List Value) : List (Node × Node) → List (List Fault)
  | [] => []
  | (key, item) :: rest =>
      let known := keyOf key.value
      let here := key.faults.flatten ++ item.faults.headD [] ++ keyFaults seen known
      mergeLevels (here :: item.faults.drop 1) (entryFaults (known :: seen) rest)

end

end Node

/-- A text without the mark of the byte order in front. -/
def withoutOrderMark : List Char → List Char
  | '\ufeff' :: rest => rest
  | text => text

/-- The value of a YAML document.  A document without content is null.  The text has to be well-formed
as a whole before its scalars and keys are looked at. -/
def readDocument (text : List Char) : Except Fault Value :=
  if text.all isAllowed then do
    let tokens ← tokenize (withoutOrderMark text)
    match ← Node.ofTokens tokens with
    | none => pure .null
    | some node =>
        match node.faults.flatten with
        | fault :: _ => .error fault
        | [] => pure node.value
  else .error .malformed

end Stencil.Yaml
