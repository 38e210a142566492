import Flowgraph.Regex.Classes
import Flowgraph.Regex.Reader
import Flowgraph.Regex.Size
import Flowgraph.Text.Numeral

/-!
# From written patterns to patterns

A term becomes a shape under the flags in force where it stands. Flags that change in the middle of
a group hold to the end of that group, its later branches included. A shape that is not too large is
a pattern.
-/

namespace Flowgraph.Regex

/-- Without Unicode a class must not reach beyond ASCII, or it could match part of a character. -/
def checkAscii (flags : Flags) (span : Span) (s : CharSet) : Except Fault CharSet :=
  if flags.unicode || s.ranges.all (fun r => r.2 < 128) then .ok s
  else .error { kind := .invalidUtf8, span, earlier := none }

def perlSet (flags : Flags) (cls : PerlClass) (negated : Bool) (span : Span) :
    Except Fault CharSet :=
  let s := cls.set flags.unicode
  checkAscii flags span (if negated then s.complement else s)

def propertySet (flags : Flags) (query : PropertyQuery) (negated : Bool) (span : Span) :
    Except Fault CharSet :=
  if !flags.unicode then .error { kind := .unicodeNotAllowed, span, earlier := none }
  else
    match query.set with
    | .error kind => .error { kind, span, earlier := none }
    | .ok s =>
        let s := if flags.ignoreCase then foldCase true s else s
        .ok (if negated then s.complement else s)

def foldIf (flags : Flags) (s : CharSet) : CharSet :=
  if flags.ignoreCase then foldCase flags.unicode s else s

mutual

def SetTerm.set (flags : Flags) : SetTerm → Except Fault CharSet
  | .range lo hi span =>
      if !flags.unicode && hi.toNat ≥ 128 then
        .error { kind := .unicodeNotAllowed, span, earlier := none }
      else .ok (CharSet.range lo hi)
  | .ascii s negated => .ok (if negated then s.complement else s)
  | .perl cls negated span => perlSet flags cls negated span
  | .property query negated span => propertySet flags query negated span
  | .union items => (SetTerm.setAmong flags items).map CharSet.ofRanges
  | .bracketed negated inner span =>
      match inner.set flags with
      | .error fault => .error fault
      | .ok s =>
          let s := foldIf flags s
          checkAscii flags span (if negated then s.complement else s)
  | .binary operator a b =>
      match a.set flags with
      | .error fault => .error fault
      | .ok x =>
          match b.set flags with
          | .error fault => .error fault
          | .ok y =>
              let x := foldIf flags x
              let y := foldIf flags y
              .ok (match operator with
                | .intersection => x.inter y
                | .difference => x.diff y
                | .symmetricDifference => x.symmDiff y)

def SetTerm.setAmong (flags : Flags) : List SetTerm → Except Fault (List (Nat × Nat))
  | [] => .ok []
  | item :: rest =>
      match item.set flags with
      | .error fault => .error fault
      | .ok s => (SetTerm.setAmong flags rest).map (s.ranges ++ ·)

end

def AssertionKind.assertion (flags : Flags) : AssertionKind → Assertion
  | .lineStart =>
      if !flags.multiLine then .textStart else if flags.crlf then .lineStartCrlf else .lineStart
  | .lineEnd =>
      if !flags.multiLine then .textEnd else if flags.crlf then .lineEndCrlf else .lineEnd
  | .textStart => .textStart
  | .textEnd => .textEnd
  | .boundary => .boundary (wordSet flags.unicode)
  | .notBoundary => .notBoundary (wordSet flags.unicode)
  | .wordStart => .wordStart (wordSet flags.unicode)
  | .wordEnd => .wordEnd (wordSet flags.unicode)
  | .wordStartHalf => .wordStartHalf (wordSet flags.unicode)
  | .wordEndHalf => .wordEndHalf (wordSet flags.unicode)

def dotSet (flags : Flags) : CharSet :=
  if flags.dotAll then .all
  else if flags.crlf then (CharSet.ofText "\n\r").complement
  else (CharSet.single '\n').complement

mutual

def Term.compile (flags : Flags) : Term → Except Fault (Shape × Flags)
  | .empty => .ok (.empty, flags)
  | .flags changes => .ok (.empty, changes.foldl Flags.update flags)
  | .literal c isByte span =>
      if isByte && !flags.unicode && c.toNat ≥ 128 then
        .error { kind := .invalidUtf8, span, earlier := none }
      else .ok (.ofSet flags.unicode (foldIf flags (.single c)), flags)
  | .dot span =>
      if flags.unicode then .ok (.ofSet true (dotSet flags), flags)
      else .error { kind := .invalidUtf8, span, earlier := none }
  | .assertion kind => .ok (.assert (kind.assertion flags), flags)
  | .perl cls negated span =>
      (perlSet flags cls negated span).map fun s => (.ofSet flags.unicode s, flags)
  | .property query negated span =>
      (propertySet flags query negated span).map fun s => (.ofSet flags.unicode s, flags)
  | .set term => (term.set flags).map fun s => (.ofSet flags.unicode s, flags)
  | .copies term least most lazy =>
      (term.compile flags).map fun (a, after) =>
        (.copiesOf a least most (lazy != flags.swapGreed), after)
  | .group changes number term =>
      (term.compile (changes.foldl Flags.update flags)).map fun (a, _) =>
        (match number with
          | some n => .group n a
          | none => a, flags)
  | .alternation branches =>
      (Term.compileAll flags branches).map fun (branches, flags) => (.choiceOf branches, flags)
  | .concat terms =>
      (Term.compileAll flags terms).map fun (parts, flags) => (.sequenceOf parts, flags)

/-- The shapes of terms; flags pass from one to the next. -/
def Term.compileAll (flags : Flags) : List Term → Except Fault (List Shape × Flags)
  | [] => .ok ([], flags)
  | t :: rest =>
      match t.compile flags with
      | .error fault => .error fault
      | .ok (a, flags) =>
          (Term.compileAll flags rest).map fun (others, flags) => (a :: others, flags)

end

end Flowgraph.Regex

namespace Flowgraph.Pattern

inductive Fault where
  | malformed (fault : Regex.Fault)
  | tooLarge
deriving DecidableEq, Inhabited

def Fault.report (text : String) : Fault → String
  | .malformed fault => fault.report text
  | .tooLarge => "Compiled regex exceeds size limit of " ++ Numeral.render Machine.sizeLimit ++ " bytes."

def read (text : String) : Except Fault Pattern :=
  match Regex.Term.read text with
  | .error fault => .error (.malformed fault)
  | .ok term =>
      match term.compile .initial with
      | .error fault => .error (.malformed fault)
      | .ok (a, _) => if a.fits then .ok a.pattern else .error .tooLarge

end Flowgraph.Pattern
