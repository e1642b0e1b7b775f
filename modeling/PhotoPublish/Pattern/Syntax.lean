import PhotoPublish.Pattern.CharClass

/-!
# Pattern trees

`Node` is a regular expression with all its flags resolved: classes know how they fold, anchors
whether they see lines, and a look behind how far it goes back. `Node.width` is the least and the
greatest number of characters that a tree matches, both capped at `widthCap`.
-/

set_option autoImplicit false

namespace PhotoPublish.Pattern

/-- Tests on a position. -/
inductive Anchor where
  | textStart
  | textEnd
  | lineStart
  | lineEnd
  /-- The end of the text, or the line feed that ends it. -/
  | lastLineEnd
  | wordBoundary (negated ascii : Bool)
deriving DecidableEq, Repr

/-- How a repetition chooses its count: as many as possible, as few as possible, or as many as
possible without giving any back. -/
inductive Greed where
  | greedy
  | lazy
  | possessive
deriving DecidableEq, Repr

/-- A regular expression. -/
inductive Node where
  | one (cls : CharClass)
  | anchor (kind : Anchor)
  | seq (items : List Node)
  | alt (branches : List Node)
  | group (index : Nat) (body : Node)
  | backref (index : Nat) (fold : Fold) (width : Nat × Nat)
  | repeated (greed : Greed) (least : Nat) (most : Option Nat) (body : Node)
  /-- A test that the body matches here, or that it does not; `back` characters earlier for a look
  behind. -/
  | look (negated : Bool) (back : Nat) (body : Node)
  | atomic (body : Node)
  | conditional (group : Nat) (yes no : Node)
deriving Inhabited

/-- Repetition counts and widths stay below this number. -/
def widthCap : Nat := 4294967295

namespace Node

mutual

/-- The least and the greatest width. -/
def width : Node → Nat × Nat
  | one _ => (1, 1)
  | anchor _ => (0, 0)
  | seq items => seqWidth items
  | alt branches => altWidth branches
  | group _ body => body.width
  | backref _ _ width => width
  | repeated _ least most body =>
    let (low, high) := body.width
    (min (low * least) (widthCap - 1), min (high * most.getD widthCap) widthCap)
  | look _ _ _ => (0, 0)
  | atomic body => body.width
  | conditional _ yes no =>
    let (low, high) := yes.width
    let (low', high') := no.width
    (min low low', max high high')

/-- The width of trees one after the other. -/
def seqWidth : List Node → Nat × Nat
  | [] => (0, 0)
  | node :: rest =>
    let (low, high) := node.width
    let (low', high') := seqWidth rest
    (min (low + low') (widthCap - 1), min (high + high') widthCap)

/-- The width of alternatives. -/
def altWidth : List Node → Nat × Nat
  | [] => (widthCap - 1, 0)
  | node :: rest =>
    let (low, high) := node.width
    let (low', high') := altWidth rest
    (min low low', max high high')

end

/-- The class of a tree that always matches exactly one character. -/
def unit? : Node → Option CharClass
  | one cls => some cls
  | seq [one cls] => some cls
  | _ => none

end Node

end PhotoPublish.Pattern
