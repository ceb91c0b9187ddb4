import EnvLint.Pattern.Escape
import EnvLint.Pattern.GroupHead

/-! # Reading patterns

    A pattern is a list of alternatives, an alternative a sequence of items.
    Every step consumes a token, so the length of the pattern bounds the number
    of nested calls. -/

namespace EnvLint.Pattern

/-- The member that a token of a set stands for, after it was consumed. -/
def setMember [Host] (token : List Char) (s : Scanner) : Except Fault (Member × Scanner) :=
  match token with
  | ['\\', c] => setEscape c s
  | c :: _ => .ok (.point c.toNat, s)
  | [] => .ok (.point 0, s)

/-- Reads the members of a set up to its closing bracket.  `here` is where the set
    began, `found` holds the members so far, last one first. -/
def setMembers [Host] (here : Nat) (found : List Member) :
    (limit : Nat) → Scanner → Except Fault (List Member × Scanner)
  | 0, _ => .error (.located .unterminatedSet here)
  | limit + 1, s => do
      if s.atEnd then .error (.located .unterminatedSet here)
      else if s.sees ']' && !found.isEmpty then .ok (found.reverse, ← s.next)
      else
        let low := s.token
        let (first, s) ← setMember low (← s.next)
        if s.sees '-' then
          let s ← s.next
          if s.atEnd then .error (.located .unterminatedSet here)
          else if s.sees ']' then .ok ((.point 45 :: first :: found).reverse, ← s.next)
          else
            let high := s.token
            let (last, s) ← setMember high (← s.next)
            let wrong := s.fault (.badRange low high) (low.length + 1 + high.length)
            match first, last with
            | .point a, .point b =>
                if b < a then .error wrong else setMembers here (.range a b :: found) limit s
            | _, _ => .error wrong
        else setMembers here (first :: found) limit s

/-- A set as a node; a single code point needs no set. -/
def setNode (negated : Bool) (members : List Member) : Node :=
  match members.eraseDups with
  | [.point c] => .char negated c
  | members => .set negated members

/-- Reads a set after its opening bracket. -/
def charSet [Host] (s : Scanner) : Except Fault (Node × Scanner) := do
  let here := s.position - 1
  let (negated, s) ← s.accept '^'
  let (members, s) ← setMembers here [] (s.rest.length + 1) s
  .ok (setNode negated members, s)

/-- The repetition counts from which on a count is refused. -/
def maxRepeat : Nat := 4294967295

/-- Value of the digits of a count; none if there are none. -/
def repeatCount (ds : List Char) : Except Fault (Option Nat) :=
  if ds.isEmpty then .ok none
  else if ds.length > Decimal.maxNumeralDigits then .error (.longCount ds.length)
  else
    let n := ds.foldl (fun n d => 10 * n + (d.toNat - 48)) 0
    if n ≥ maxRepeat then .error .hugeRepeat else .ok (some n)

/-- Least and greatest number of repetitions. -/
abbrev Bounds : Type := Nat × Option Nat

/-- Reads repetition bounds after the opening brace; none if the brace stands for
    itself. -/
def braceBounds (s : Scanner) : Except Fault (Option (Bounds × Scanner)) := do
  let here := s.position
  if s.sees '}' then .ok none
  else
    let (low, s) ← s.takeAll Char.isDigit
    let (comma, s) ← s.accept ','
    let (high, s) ← if comma then s.takeAll Char.isDigit else .ok (low, s)
    let (closed, s) ← s.accept '}'
    if !closed then .ok none
    else
      let least ← repeatCount low
      let most ← repeatCount high
      if most.any (· < least.getD 0) then .error (.located .repeatOrder here)
      else .ok (some ((least.getD 0, most), s))

/-- Reads repetition bounds whose first token was given; none if the token stands
    for itself. -/
def bounds (c : Char) (s : Scanner) : Except Fault (Option (Bounds × Scanner)) :=
  match c with
  | '?' => .ok (some ((0, some 1), s))
  | '*' => .ok (some ((0, none), s))
  | '+' => .ok (some ((1, none), s))
  | _ => braceBounds s

/-- Reads the mark after repetition bounds. -/
def greedMark (s : Scanner) : Except Fault (Greed × Scanner) := do
  if s.sees '?' then .ok (.lazy, ← s.next)
  else if s.sees '+' then .ok (.possessive, ← s.next)
  else .ok (.greedy, s)

/-- Repeats the last item of a sequence; `here` is where the repetition began. -/
def repeatLast (here : Nat) (b : Bounds) (items : List Node) (s : Scanner) :
    Except Fault (List Node × Scanner) :=
  match items with
  | [] | .anchor _ :: _ => .error (.located .nothingToRepeat here)
  | .rep .. :: _ => .error (.located .multipleRepeat here)
  | item :: items => do
      let (greed, s) ← greedMark s
      .ok (.rep greed b.1 b.2 item :: items, s)

/-- A sequence as one node. -/
def Node.ofItems : List Node → Node
  | [] => .empty
  | [n] => n
  | n :: ns => .cat n (ofItems ns)

/-- Whether a character is skipped where blanks are. -/
def isSkipped (c : Char) : Bool :=
  c == ' ' || (9 ≤ c.toNat && c.toNat ≤ 13)

/-- Opens a group that may have a name. -/
def openNamed (name : Option (List Char)) (s : Scanner) : Except Fault (Nat × Scanner) :=
  let (opened, index) := s.openGroup
  match name with
  | none => .ok (index, opened)
  | some name =>
      match s.named? name with
      | some was => .error (s.fault (.redefinition name index was) (name.length + 1))
      | none => .ok (index, { opened with names := opened.names ++ [(name, index)] })

/-- Steps over the closing parenthesis of a group that began at `start`. -/
def closeAt (start : Nat) (s : Scanner) : Except Fault Scanner :=
  if s.sees ')' then s.next else .error (.located .unterminatedGroup start)

mutual

/-- Reads alternatives; `top` says whether they are those of the whole pattern. -/
def alternatives [Host] (fuel : Nat) (top verbose first : Bool) (s : Scanner) :
    Except Fault (Node × Scanner) :=
  match fuel with
  | 0 => .error (s.fault .unbalanced 0)
  | fuel + 1 => do
      let (node, s) ← sequence fuel verbose first [] s
      if s.sees '|' then
        let s ← s.next
        let verbose := if top then s.flags.contains .verbose else verbose
        let (others, s) ← alternatives fuel top verbose false s
        .ok (.alt node others, s)
      else .ok (node, s)

/-- Reads a sequence; `items` holds the items so far, last one first, and `first`
    says whether flags of the whole pattern may stand here. -/
def sequence [Host] (fuel : Nat) (verbose first : Bool) (items : List Node) (s : Scanner) :
    Except Fault (Node × Scanner) :=
  match fuel with
  | 0 => .error (s.fault .unbalanced 0)
  | fuel + 1 =>
      match s.token with
      | [] | ['|'] | [')'] => .ok (.ofItems items.reverse, s)
      | ['\\', c] => do
          let (node, s) ← nodeEscape c (← s.next)
          sequence fuel verbose first (node :: items) s
      | c :: _ => do
          let s ← s.next
          if verbose && isSkipped c then sequence fuel verbose first items s
          else if verbose && c = '#' then
            let (_, _, s) ← s.tokensUntil '\n' (s.rest.length + 1)
            sequence fuel verbose first items s
          else
            match c with
            | '.' => sequence fuel verbose first (.any :: items) s
            | '^' => sequence fuel verbose first (.anchor .start :: items) s
            | '$' => sequence fuel verbose first (.anchor .stop :: items) s
            | '[' => do
                let (node, s) ← charSet s
                sequence fuel verbose first (node :: items) s
            | '(' => group fuel verbose first items s
            | c =>
                if c = '*' || c = '+' || c = '?' || c = '{' then
                  match ← bounds c s with
                  | none => sequence fuel verbose first (.char false c.toNat :: items) s
                  | some (b, after) => do
                      let (items, s) ← repeatLast (s.position - 1) b items after
                      sequence fuel verbose first items s
                else sequence fuel verbose first (.char false c.toNat :: items) s

/-- Reads a group after its opening parenthesis, and the rest of the sequence. -/
def group [Host] (fuel : Nat) (verbose first : Bool) (items : List Node) (s : Scanner) :
    Except Fault (Node × Scanner) :=
  match fuel with
  | 0 => .error (s.fault .unbalanced 0)
  | fuel + 1 => do
      let start := s.position - 1
      let (head, s) ← groupHead start s
      match head with
      | .comment => sequence fuel verbose first items s
      | .same index w => sequence fuel verbose first (.same index w :: items) s
      | .flags =>
          if !first || !items.isEmpty then .error (.located .lateFlags start)
          else sequence fuel (s.flags.contains .verbose) first items s
      | .capture name => do
          let (index, s) ← openNamed name s
          let (body, s) ← alternatives fuel false verbose false s
          let s ← closeAt start s
          sequence fuel verbose first (.capture index body :: items) (s.closeGroup index body.width)
      | .scoped on off => do
          let inner := (verbose || on.contains .verbose) && !off.contains .verbose
          let (body, s) ← alternatives fuel false inner false s
          let s ← closeAt start s
          sequence fuel verbose first (.scoped on off body :: items) s
      | .atomic => do
          let (body, s) ← alternatives fuel false verbose false s
          let s ← closeAt start s
          sequence fuel verbose first (.atomic body :: items) s
      | .look behind negated => do
          let limit := s.behind
          let s := if behind && limit.isNone then { s with behind := some s.groupCount } else s
          let (body, s) ← alternatives fuel false verbose false s
          let s := { s with behind := limit }
          let s ← closeAt start s
          sequence fuel verbose first (.look behind negated body :: items) s
      | .cond index => do
          let (yes, s) ← sequence fuel verbose false [] s
          if s.sees '|' then
            let (no, s) ← sequence fuel verbose false [] (← s.next)
            if s.sees '|' then .error (s.fault .manyBranches 0)
            else
              let s ← closeAt start s
              sequence fuel verbose first (.cond index yes no :: items) s
          else
            let s ← closeAt start s
            sequence fuel verbose first (.cond index yes .empty :: items) s

end

/-- The widest look behind. -/
def maxBehind : Nat := 4294967295

/-- Name of a repetition in a refusal. -/
def Greed.name : Greed → String
  | .greedy => "MAX_REPEAT"
  | .lazy => "MIN_REPEAT"
  | .possessive => "POSSESSIVE_REPEAT"

/-- The first flaw that only the whole tree shows: a repetition where none is
    allowed, or a look behind without a fixed width. -/
def Node.flaw? (template : Bool) : Node → Option Flaw
  | .rep greed _ _ body =>
      if template then some (.refusedRepeat greed.name) else body.flaw? template
  | .look behind _ body =>
      if behind && body.width.least > maxBehind then some .wideLookbehind
      else if behind && body.width.least ≠ body.width.most then some .variableLookbehind
      else body.flaw? template
  | .cat a b | .alt a b | .cond _ a b => (a.flaw? template).or (b.flaw? template)
  | .capture _ body | .scoped _ _ body | .atomic body => body.flaw? template
  | .empty | .char .. | .set .. | .any | .anchor _ | .same .. => none

/-- A pattern: its tree and the flags for the whole of it. -/
structure Parsed where
  /-- The tree. -/
  node : Node
  /-- The flags in force at its top. -/
  scope : Scope
deriving DecidableEq, Repr

/-- The first condition on a group that does not exist. -/
def missingGroup? (s : Scanner) : Option Fault :=
  (s.asked.find? fun a => s.groupCount ≤ a.1).map fun a => .located (.noGroup a.1) a.2

/-- Reads a pattern. -/
def read [Host] (source : List Char) : Except Fault Parsed := do
  let s ← Scanner.start source
  let (node, s) ← alternatives (3 * source.length + 3) true false true s
  if s.flags.contains .ascii && s.flags.contains .unicode then .error .conflictingRules
  else if !s.atEnd then .error (s.fault .unbalanced 0)
  else if let some fault := missingGroup? s then .error fault
  else if let some flaw := node.flaw? (s.flags.contains .template) then .error (.general flaw)
  else .ok ⟨node, Scope.plain.within s.flags []⟩

end EnvLint.Pattern
