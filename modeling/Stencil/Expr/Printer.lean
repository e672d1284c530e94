/-
Module: Stencil.Expr.Printer
Purpose: The canonical text of expressions.
Main exports: Primary.print, Disjunction.print, Expression.print
-/
import Stencil.Expr.Token
import Stencil.Expr.Tree

namespace Stencil.Expr

def EqualityOperator.sign : EqualityOperator → String
  | equal => "=="
  | unequal => "!="

def ComparisonOperator.sign : ComparisonOperator → String
  | greater => ">"
  | greaterOrEqual => ">="
  | less => "<"
  | lessOrEqual => "<="

def SumOperator.sign : SumOperator → String
  | plus => "+"
  | minus => "-"

def ProductOperator.sign : ProductOperator → String
  | times => "*"
  | divide => "/"
  | modulo => "%"

/-- The text of an operator in front of its operand. -/
def UnaryOperator.lead : UnaryOperator → String
  | not => "!"
  | minus => "-"
  | empty => "empty "

/-- A text literal in single quotes.  Backslashes and single quotes are escaped, and nothing else. -/
def quoteLiteral (content : String) : String :=
  let escaped := content.toList.flatMap fun character =>
    if character == '\\' || character == '\'' then ['\\', character] else [character]
  String.ofList ('\'' :: escaped ++ ['\''])

mutual

/-- The canonical text of a value.  An infinite literal has none that reads back: it prints as the
word for infinity. -/
def Primary.print : Primary → String
  | .boolean flag => if flag then "true" else "false"
  | .integer value => integerText value
  | .double value => value.text
  | .text content => quoteLiteral content
  | .parameter index => "?" ++ integerText index
  | .path written => written
  | .null => "null"
  | .nested inner => "(" ++ inner.print ++ ")"

def Unary.print : Unary → String
  | .plain operand => operand.print
  | .applied sign operand => sign.lead ++ operand.print

def Product.print : Product → String
  | .single factor => factor.print
  | .pair left sign right => left.print ++ " " ++ sign.sign ++ " " ++ right.print

def Sum.print : Sum → String
  | .mk first rest => first.print ++ Sum.printRest rest

def Sum.printRest : List (SumOperator × Product) → String
  | [] => ""
  | (sign, term) :: rest => " " ++ sign.sign ++ " " ++ term.print ++ Sum.printRest rest

def Comparison.print : Comparison → String
  | .single operand => operand.print
  | .pair left sign right => left.print ++ " " ++ sign.sign ++ " " ++ right.print

def Equality.print : Equality → String
  | .single operand => operand.print
  | .pair left sign right => left.print ++ " " ++ sign.sign ++ " " ++ right.print

def Conjunction.print : Conjunction → String
  | .mk first rest => first.print ++ Conjunction.printRest rest

def Conjunction.printRest : List Equality → String
  | [] => ""
  | term :: rest => " && " ++ term.print ++ Conjunction.printRest rest

/-- The canonical text of an expression: one space around every operator between operands, symbols
for all operators, and parentheses where the tree has them. -/
def Disjunction.print : Disjunction → String
  | .mk first rest => first.print ++ Disjunction.printRest rest

def Disjunction.printRest : List Conjunction → String
  | [] => ""
  | term :: rest => " || " ++ term.print ++ Disjunction.printRest rest

end

/-- The canonical text of an expression. -/
def Expression.print (expression : Expression) : String :=
  expression.root.print

end Stencil.Expr
