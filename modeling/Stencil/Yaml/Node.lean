/-
Module: Stencil.Yaml.Node
Purpose: The tree that the tokens of a YAML document describe.
Main exports: Node, Node.ofTokens
-/
import Stencil.Yaml.Token

namespace Stencil.Yaml

/-- A part of a document: a scalar, a list, or a mapping of keys to values as they are written. -/
inductive Node where
  | plain (written : List Char)
  | quoted (content : List Char)
  | list (items : List Node)
  | map (entries : List (Node × Node))
deriving Repr, Inhabited

namespace Node

/-- What stands where nothing is written. -/
def empty : Node :=
  plain []

/-- Whether the next token is one of some. -/
def nextIs (choices : List Token) (tokens : List Token) : Bool :=
  match tokens with
  | [] => false
  | token :: _ => choices.contains token

mutual

/-- Read a node.  Blocks may start here only if `block` says so; a list may go without a block of its
own behind a key, where `bare` says so. -/
def read (bound : Nat) (block bare : Bool) (tokens : List Token) :
    Except Fault (Node × List Token) :=
  match bound with
  | 0 => .error .malformed
  | bound + 1 =>
      match tokens with
      | .plain written :: rest => .ok (plain written, rest)
      | .quoted content :: rest => .ok (quoted content, rest)
      | .openList :: rest => readFlowItems bound true [] rest
      | .openMap :: rest => readFlowEntries bound true [] rest
      | .item :: _ => if bare then readBareItems bound [] tokens else .error .malformed
      | .blockList :: rest => if block then readItems bound [] rest else .error .malformed
      | .blockMap :: rest => if block then readEntries bound [] rest else .error .malformed
      | _ => .error .malformed

/-- Read a node, unless one of some tokens stands here. -/
def readUnless (bound : Nat) (stops : List Token) (block bare : Bool) (tokens : List Token) :
    Except Fault (Node × List Token) :=
  match bound with
  | 0 => .error .malformed
  | bound + 1 => if nextIs stops tokens then .ok (empty, tokens) else read bound block bare tokens

/-- Read the items of a list that has no block of its own. -/
def readBareItems (bound : Nat) (items : List Node) (tokens : List Token) :
    Except Fault (Node × List Token) :=
  match bound with
  | 0 => .error .malformed
  | bound + 1 =>
      match tokens with
      | .item :: rest => do
          let (item, left) ← readUnless bound [.item, .key, .value, .blockEnd] true false rest
          readBareItems bound (items ++ [item]) left
      | _ => .ok (list items, tokens)

/-- Read the items of a block. -/
def readItems (bound : Nat) (items : List Node) (tokens : List Token) :
    Except Fault (Node × List Token) :=
  match bound with
  | 0 => .error .malformed
  | bound + 1 =>
      match tokens with
      | .item :: rest => do
          let (item, left) ← readUnless bound [.item, .blockEnd] true false rest
          readItems bound (items ++ [item]) left
      | .blockEnd :: rest => .ok (list items, rest)
      | _ => .error .malformed

/-- Read the value behind a key, if there is one; a node there stops at the given tokens. -/
def readValue (bound : Nat) (stops : List Token) (block : Bool) (tokens : List Token) :
    Except Fault (Node × List Token) :=
  match bound with
  | 0 => .error .malformed
  | bound + 1 =>
      match tokens with
      | .value :: rest => readUnless bound stops block block rest
      | _ => .ok (empty, tokens)

/-- Read the entries of a block. -/
def readEntries (bound : Nat) (entries : List (Node × Node)) (tokens : List Token) :
    Except Fault (Node × List Token) :=
  match bound with
  | 0 => .error .malformed
  | bound + 1 =>
      match tokens with
      | .blockEnd :: rest => .ok (map entries, rest)
      | .key :: rest => do
          let (key, behind) ← readUnless bound [.key, .value, .blockEnd] true true rest
          let (value, left) ← readValue bound [.key, .value, .blockEnd] true behind
          readEntries bound (entries ++ [(key, value)]) left
      | .value :: _ => do
          let (value, left) ← readValue bound [.key, .value, .blockEnd] true tokens
          readEntries bound (entries ++ [(empty, value)]) left
      | _ => .error .malformed

/-- Read the items between brackets.  Behind the first one a comma stands in front of each, and may
stand in front of the closing bracket. -/
def readFlowItems (bound : Nat) (isFirst : Bool) (items : List Node) (tokens : List Token) :
    Except Fault (Node × List Token) :=
  match bound with
  | 0 => .error .malformed
  | bound + 1 =>
      let start := match isFirst, tokens with
        | false, .comma :: rest => some rest
        | true, _ | false, .closeList :: _ => some tokens
        | false, _ => none
      match start with
      | none => .error .malformed
      | some (.closeList :: rest) => .ok (list items, rest)
      | some (.key :: rest) => do
          let (key, behind) ← readUnless bound [.value, .comma, .closeList] false false rest
          let (value, left) ← readValue bound [.comma, .closeList] false behind
          readFlowItems bound false (items ++ [map [(key, value)]]) left
      | some rest => do
          let (item, left) ← read bound false false rest
          readFlowItems bound false (items ++ [item]) left

/-- Read the entries between braces.  Behind the first one a comma stands in front of each, and may
stand in front of the closing brace. -/
def readFlowEntries (bound : Nat) (isFirst : Bool) (entries : List (Node × Node))
    (tokens : List Token) : Except Fault (Node × List Token) :=
  match bound with
  | 0 => .error .malformed
  | bound + 1 =>
      let start := match isFirst, tokens with
        | false, .comma :: rest => some rest
        | true, _ | false, .closeMap :: _ => some tokens
        | false, _ => none
      match start with
      | none => .error .malformed
      | some (.closeMap :: rest) => .ok (map entries, rest)
      | some (.key :: rest) => do
          let (key, behind) ← readUnless bound [.value, .comma, .closeMap] false false rest
          let (value, left) ← readValue bound [.comma, .closeMap] false behind
          readFlowEntries bound false (entries ++ [(key, value)]) left
      | some (.value :: rest) => do
          let (value, left) ← readValue bound [.comma, .closeMap] false (.value :: rest)
          readFlowEntries bound false (entries ++ [(empty, value)]) left
      | some rest => do
          let (key, left) ← read bound false false rest
          readFlowEntries bound false (entries ++ [(key, empty)]) left

end

/-- The node of a document; there is none if there are no tokens.  The document may be marked at its
start and at its end, and there may be no second one. -/
def ofTokens : List Token → Except Fault (Option Node)
  | [] => .ok none
  | tokens => do
      let body := match tokens with
        | .documentStart :: rest => rest
        | _ => tokens
      let marked := body.length < tokens.length
      let ends := body.isEmpty || nextIs [.documentStart, .documentEnd] body
      let (node, left) ←
        if marked && ends then pure (empty, body)
        else read (4 * body.length + 4) true false body
      if left.all (· == .documentEnd) then pure (some node) else .error .malformed

end Node

end Stencil.Yaml
