import Flowgraph.Regex.Pattern
import Flowgraph.Regex.Fault

/-!
# Written patterns

The terms that the text of a pattern is read into. What a term matches depends on the flags in force
where it stands, which are terms themselves.
-/

namespace Flowgraph.Regex

inductive Flag where
  | ignoreCase
  | multiLine
  | dotAll
  | swapGreed
  | unicode
  | crlf
  | verbose
deriving DecidableEq, Inhabited

structure Flags where
  ignoreCase : Bool
  multiLine : Bool
  dotAll : Bool
  swapGreed : Bool
  unicode : Bool
  crlf : Bool
deriving DecidableEq, Inhabited

/-- Unicode is on at first, and nothing else. -/
def Flags.initial : Flags :=
  { ignoreCase := false, multiLine := false, dotAll := false, swapGreed := false, unicode := true
    crlf := false }

def Flags.update (flags : Flags) : Flag × Bool → Flags
  | (.ignoreCase, on) => { flags with ignoreCase := on }
  | (.multiLine, on) => { flags with multiLine := on }
  | (.dotAll, on) => { flags with dotAll := on }
  | (.unicode, on) => { flags with unicode := on }
  | (.crlf, on) => { flags with crlf := on }
  | (.swapGreed, on) => { flags with swapGreed := on }
  | (.verbose, _) => flags

inductive PerlClass where
  | digit
  | space
  | word
deriving DecidableEq, Inhabited

/-- How a property is asked for: by one name, or by a name and a value. -/
inductive PropertyQuery where
  | named (name : String)
  | valued (name value : String)
deriving DecidableEq, Inhabited

inductive SetOperator where
  | intersection
  | difference
  | symmetricDifference
deriving DecidableEq, Inhabited

inductive SetTerm where
  | range (lo hi : Char) (span : Span)
  | ascii (set : CharSet) (negated : Bool)
  | perl (cls : PerlClass) (negated : Bool) (span : Span)
  | property (query : PropertyQuery) (negated : Bool) (span : Span)
  | union (items : List SetTerm)
  | bracketed (negated : Bool) (inner : SetTerm) (span : Span)
  | binary (operator : SetOperator) (a b : SetTerm)
deriving Inhabited

inductive AssertionKind where
  | lineStart
  | lineEnd
  | textStart
  | textEnd
  | boundary
  | notBoundary
  | wordStart
  | wordEnd
  | wordStartHalf
  | wordEndHalf
deriving DecidableEq, Inhabited

inductive Term where
  | empty
  | flags (changes : List (Flag × Bool))
  /-- A character; `isByte` marks one that was written as two hexadecimal digits. -/
  | literal (c : Char) (isByte : Bool) (span : Span)
  | dot (span : Span)
  | assertion (kind : AssertionKind)
  | perl (cls : PerlClass) (negated : Bool) (span : Span)
  | property (query : PropertyQuery) (negated : Bool) (span : Span)
  | set (term : SetTerm)
  /-- Copies of a term; `lazy` marks the ones that were written with a question mark. -/
  | copies (term : Term) (least : Nat) (most : Option Nat) (lazy : Bool)
  /-- A group, with its number if it is counted; the changes of flags hold inside it only. -/
  | group (changes : List (Flag × Bool)) (number : Option Nat) (term : Term)
  | alternation (branches : List Term)
  | concat (terms : List Term)
deriving Inhabited

mutual

def SetTerm.depth : SetTerm → Nat
  | .union items => 1 + SetTerm.depthAmong items
  | .bracketed _ inner _ => 1 + inner.depth
  | .binary _ a b => 1 + max a.depth b.depth
  | _ => 0

def SetTerm.depthAmong : List SetTerm → Nat
  | [] => 0
  | t :: rest => max t.depth (SetTerm.depthAmong rest)

end

mutual

def Term.depth : Term → Nat
  | .set term => term.depth
  | .copies term _ _ _ => 1 + term.depth
  | .group _ _ term => 1 + term.depth
  | .alternation branches => 1 + Term.depthAmong branches
  | .concat terms => 1 + Term.depthAmong terms
  | _ => 0

def Term.depthAmong : List Term → Nat
  | [] => 0
  | t :: rest => max t.depth (Term.depthAmong rest)

end

end Flowgraph.Regex
