import Drafting.Decimal.Reading
import Drafting.Expression.Symbols
import Drafting.Text.Blank

/-!
# Expressions

An expression is a number on its own, or a chain of operands with the signs `+`
and `-` between them.  A chain is evaluated strictly from left to right; an
operand is a number or the name of one.  Blanks inside a chain mean nothing,
not even inside an operand.

An operand with no sign before it replaces the total so far, of several signs in
a row the last one counts, and signs at the end are ignored.
-/

namespace Drafting

/-- A finite number, written alone apart from the blanks around it. -/
def literal? (cs : List Char) : Option Float :=
  match Decimal.readFloat (Text.trim cs) with
  | some v => if v.isFinite then some v else none
  | none => none

inductive ExpressionError where
  | undefinedSymbol (name : String)
  | malformed (expression : String)
deriving DecidableEq

namespace ExpressionError

def message : ExpressionError -> String
  | undefinedSymbol name => "undefined symbol \"" ++ name ++ "\""
  | malformed expression => "malformed expression \"" ++ expression ++ "\""

end ExpressionError

namespace Expression

/-!
## Tokens

A chain is cut into its signs and the runs of characters between them, with
their blanks deleted.  An operand is a number if it reads as one, and otherwise
a name.
-/

inductive Sign where
  | plus
  | minus
deriving DecidableEq

inductive Token where
  | sign (s : Sign)
  | operand (text : List Char)
deriving DecidableEq

/-- Puts a character in front of the first operand, opening one if need be. -/
def prepend (c : Char) : List Token -> List Token
  | .operand text :: rest => .operand (c :: text) :: rest
  | tokens => .operand [c] :: tokens

def tokens : List Char -> List Token
  | [] => []
  | c :: rest =>
      if c = '+' then .sign .plus :: tokens rest
      else if c = '-' then .sign .minus :: tokens rest
      else if Text.isBlank c then tokens rest
      else prepend c (tokens rest)

def resolve? (symbols : SymbolTable) (text : List Char) : Option Float :=
  match literal? text with
  | some v => some v
  | none => symbols.get? (String.ofList text)

/-!
## Chains

What has been read of a chain is its total, once there is an operand, and the
sign that still waits for one.
-/

structure Chain where
  total : Option Float
  pending : Option Sign
deriving DecidableEq

namespace Chain

def start : Chain := { total := none, pending := none }

/-- Before the first operand the total counts as zero. -/
def add (c : Chain) (v : Float) : Chain :=
  let soFar := c.total.getD 0.0
  let total :=
    match c.pending with
    | none => v
    | some .plus => soFar + v
    | some .minus => soFar - v
  { total := some total, pending := none }

def step (symbols : SymbolTable) (c : Chain) : Token -> Except ExpressionError Chain
  | .sign s => .ok { c with pending := some s }
  | .operand text =>
      match resolve? symbols text with
      | some v => .ok (c.add v)
      | none => .error (.undefinedSymbol (String.ofList text))

def run (symbols : SymbolTable) : Chain -> List Token -> Except ExpressionError Chain
  | c, [] => .ok c
  | c, token :: rest =>
      match c.step symbols token with
      | .ok next => run symbols next rest
      | .error e => .error e

end Chain

def evaluate (symbols : SymbolTable) (raw : String) : Except ExpressionError Float :=
  match literal? raw.toList with
  | some v => .ok v
  | none =>
      match Chain.run symbols .start (tokens raw.toList) with
      | .error e => .error e
      | .ok chain =>
          match chain.total with
          | some v => .ok v
          | none => .error (.malformed (Text.trimmed raw))

@[simp] theorem tokens_nil : tokens [] = [] := rfl

@[simp] theorem tokens_plus (rest : List Char) :
    tokens ('+' :: rest) = .sign .plus :: tokens rest := by
  simp [tokens]

@[simp] theorem tokens_minus (rest : List Char) :
    tokens ('-' :: rest) = .sign .minus :: tokens rest := by
  simp [tokens]

theorem evaluate_of_literal {symbols : SymbolTable} {raw : String} {v : Float}
    (h : literal? raw.toList = some v) : evaluate symbols raw = .ok v := by
  simp [evaluate, h]

end Expression

end Drafting
