import EnvLint.Pattern.CharTest

/-! # Where a search starts

    If a pattern can only start with a member of a set, a search skips every
    character outside that set.  The classes in the set are then those of the
    flags around the whole pattern, also where a group has changed them: a group
    for ASCII that starts with a negated class of its own starts at no letter
    that only Unicode knows. -/

namespace EnvLint.Pattern

/-- A set that the first character of a match is in. -/
structure Lead where
  /-- Whether the members are left out instead. -/
  negated : Bool
  /-- Members of the set. -/
  members : List Member
deriving DecidableEq, Repr

/-- Whether a code point changes when case is ignored. -/
def Scope.isCased (scope : Scope) (c : Nat) : Bool :=
  scope.lower c != c || scope.siblings c != [c] || scope.sources c != [c]

/-- Whether a member stands for itself alone, also where case is ignored. -/
def Member.isUncased (scope : Scope) : Member → Bool
  | .point c => !scope.isCased c
  | .range low high =>
      high < planeEnd && (List.range' low (high + 1 - low)).all fun c => !scope.isCased c
  | .category .. => true

/-- Whether a member is a class. -/
def Member.isClass : Member → Bool
  | .category .. => true
  | _ => false

/-- The set as a lead; none if it holds no class, so that flags do not matter, or
    if case hides its members. -/
def Lead.ofSet (scope : Scope) (negated : Bool) (members : List Member) : Option Lead :=
  if !members.any Member.isClass then none
  else if scope.ignoreCase && !members.all (·.isUncased scope) then none
  else some ⟨negated, members⟩

/-- The first item of a sequence, with plain groups opened. -/
def Node.firstItem? : Node → Option Node
  | .empty => none
  | .cat a b => a.firstItem?.or b.firstItem?
  | .scoped [] [] body => body.firstItem?
  | n => some n

/-- The members that a choice among single characters stands for. -/
def Node.choice? : Node → Option (List Member)
  | .char false c => some [.point c]
  | .set false members => some members
  | .scoped [] [] body => body.choice?
  | .alt a b => do
      let first ← a.choice?
      let others ← b.choice?
      some (first ++ others)
  | _ => none

/-- The item that every alternative starts with. -/
def Node.sharedItem? : Node → Option Node
  | .alt a b =>
      match a.firstItem?, b.sharedItem? with
      | some x, some y => if x = y then some x else none
      | _, _ => none
  | n => n.firstItem?

/-- The set that a pattern starts with, if it starts with one. -/
def Node.lead? (scope : Scope) : Node → Option Lead
  | .set negated members => Lead.ofSet scope negated members
  | .cat a b => if a.firstItem?.isNone then b.lead? scope else a.lead? scope
  | .capture _ body => body.lead? scope
  | .scoped on off body => body.lead? (scope.within on off)
  | .alt a b =>
      match (Node.alt a b).sharedItem? with
      | some (.set negated members) => Lead.ofSet scope negated members
      | some _ => none
      | none => ((Node.alt a b).choice?).bind (Lead.ofSet scope false)
  | _ => none

/-- Whether a match may start with a character. -/
def Lead.allows (scope : Scope) (l : Lead) (c : Char) : Bool :=
  l.members.any (·.covers scope c) != l.negated

end EnvLint.Pattern
